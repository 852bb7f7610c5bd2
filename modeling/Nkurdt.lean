import Nkurdt.Library.Runs
import Nkurdt.Library.Containers
import Nkurdt.Packet.Codec
import Nkurdt.Packet.Socket
import Nkurdt.Packet.RoundTrip
import Nkurdt.Packet.Accepted
import Nkurdt.Packet.Corruption
import Nkurdt.Receiver.Recv
import Nkurdt.Receiver.Slide
import Nkurdt.Receiver.Buffer
import Nkurdt.Receiver.Delivery
import Nkurdt.Receiver.ControlState
import Nkurdt.Receiver.Rejection
import Nkurdt.Receiver.Ending
import Nkurdt.Concurrency
import Nkurdt.Sender.State
import Nkurdt.Sender.Step
import Nkurdt.Sender.Branches
import Nkurdt.Sender.Keeps
import Nkurdt.Sender.Packets
import Nkurdt.Sender.Numbers
import Nkurdt.Sender.Scheduling
import Nkurdt.Library.Mutexes
import Nkurdt.Sender.Mutexes
import Nkurdt.Sender.Deadlock
import Nkurdt.Sender.LockOrder
import Nkurdt.Sender.Acks
import Nkurdt.Sender.Retry
import Nkurdt.Sender.Orphans
import Nkurdt.Sender.WindowMoves
import Nkurdt.Sender.Residue
import Nkurdt.Library.Renaming
import Nkurdt.Packet.Shift
import Nkurdt.Receiver.Renumber
import Nkurdt.Sender.Renumber
import Nkurdt.WrapAround
import Nkurdt.Sender.Calls
import Nkurdt.Sender.Transfers
import Nkurdt.Receiver.Serving
import Nkurdt.Session.System
import Nkurdt.Session.Heard
import Nkurdt.Session.Delivery
import Nkurdt.Session.Current
import Nkurdt.Receiver.WindowOne
import Nkurdt.Sender.Pacing
import Nkurdt.Sender.Throughput
import Nkurdt.Timer.Deadlines
import Nkurdt.Timer.Reporting
import Nkurdt.Timer.Stopping
import Nkurdt.Library.Turns
import Nkurdt.Timer.Expiry
import Nkurdt.Sender.Shutdown
import Nkurdt.Sender.Transmissions
import Nkurdt.Session.AckedSet
import Nkurdt.Receiver.Client
import Nkurdt.Sender.Script
import Nkurdt.Session.Files
import Nkurdt.Session.Integrity
import Nkurdt.Session.Noise
import Nkurdt.Router
import Nkurdt.Session.Relay
import Nkurdt.Library.Channel
import Nkurdt.Session.Channel
import Nkurdt.Sender.Leftovers
import Nkurdt.Sender.TimerUse
import Nkurdt.Sender.Backlog
import Nkurdt.Sender.Retransmission
import Nkurdt.Sender.GivingUp
import Nkurdt.Session.Progress
