import Nkurdt.Concurrency
import Nkurdt.Packet.RoundTrip
import Nkurdt.Packet.Socket

/-
  The members of the sender and where its threads are.

  Every thread is a program counter. A counter carries the
  local variables that are live there, and a counter of the
  form `lock…` is a thread that waits for a mutex. What the
  run has done so far is kept in `History`, which no step
  reads.

  Main declarations:
    * `SenderState`
    * `Request`
    * `Transfer`
    * `CallerPc`
    * `SendPc`
    * `RecvPc`
    * `TimeoutPc`
    * `History`
    * `Sender`
-/

------------------------------------------------------------
-- States, Requests and Calls
------------------------------------------------------------

namespace Nkurdt

inductive SenderState where
| idle
| connecting
| connected
| pushing
| sending
| stopping
| disconnecting
deriving DecidableEq

/- The requests that a call sends under `state_mutex_`. -/
inductive Request where
| connect
| push
| stop
| disconnect
deriving DecidableEq

namespace Request

def kind : Request → PacketKind
| .connect => .connReq
| .push => .dataPush
| .stop => .dataStop
| .disconnect => .disconnReq

/- The state a call enters before it sends the request. -/
def waiting : Request → SenderState
| .connect => .connecting
| .push => .pushing
| .stop => .stopping
| .disconnect => .disconnecting

/- The predicate of the wait for the acknowledgement. -/
def Done (r : Request) (state : SenderState) : Prop :=
  match r with
  | .connect => state = .connected ∨ state = .idle
  | .push => state = .sending ∨ state = .connected
  | .stop => state = .connected
  | .disconnect => state = .idle

instance (r : Request) (state : SenderState) :
    Decidable (r.Done state) := by
  unfold Done
  split <;> infer_instance

end Request

/- What a call of `send_packet` is for. -/
inductive Transfer where
| request (r : Request)
| data (payload : List UInt8)
deriving DecidableEq

namespace Transfer

def kind : Transfer → PacketKind
| .request r => r.kind
| .data _ => .data

def payload : Transfer → List UInt8
| .request _ => []
| .data payload => payload

/- The packet that `send_packet` builds. -/
def packet (t : Transfer) (seq : Nat) : Packet :=
  ⟨version, t.kind, seq, t.payload⟩

end Transfer

/-
  An input stream: the bytes it will still deliver, and what
  its conversion to `bool` gives. A stream that has failed
  delivers nothing more.
-/
structure IStream where
  content : List UInt8
  good : Bool
  drained : good = false → content = []

namespace IStream

/- A stream that has been read to its end. -/
def eof : IStream :=
  ⟨[], false, fun _ => rfl⟩

/- A stream opened on some bytes. -/
def ofBytes (content : List UInt8) : IStream :=
  ⟨content, true, fun hGood => nomatch hGood⟩

/-
  `read` of `size` bytes, of which `gcount` are there. A
  read that meets the end makes the stream fail.
-/
def read
    (is : IStream)
    (size : Nat) : List UInt8 × IStream :=
  if is.good = true ∧ size ≤ is.content.length then
    (is.content.take size,
      ⟨is.content.drop size, true,
        fun hFailed => nomatch hFailed⟩)
  else
    (is.content, eof)

/- A read moves bytes from the stream to the buffer. -/
theorem read_append
    (is : IStream)
    (size : Nat) :
    (is.read size).1 ++ (is.read size).2.content =
      is.content := by
  unfold read
  split_ifs
  · exact List.take_append_drop size is.content
  · exact List.append_nil is.content

theorem length_read
    (is : IStream)
    (size : Nat) :
    (is.read size).1.length ≤ size := by
  unfold read
  split_ifs with hGood
  · exact List.length_take_le size is.content
  · by_cases hFailed : is.good = true
    · exact (not_le.mp (fun hLe =>
        hGood ⟨hFailed, hLe⟩)).le
    · rw [is.drained (by simpa using hFailed)]
      exact Nat.zero_le size

end IStream

/- The calls of the public interface. -/
inductive Call where
| connect (addr : SocketAddr)
| send (is : IStream)
| disconnect
| stop

/- What a call returns. -/
inductive CallResult where
| success
| timedOut
| operationCanceled
deriving DecidableEq

end Nkurdt

------------------------------------------------------------
-- Threads
------------------------------------------------------------

namespace Nkurdt

inductive Thread where
| caller
| sendHandler
| recvHandler
| timeoutHandler
deriving DecidableEq

/-
  The thread that makes the calls. `waitWindow` up to
  `unlockPool` are `send_packet`; `check`, `wait` and
  `relock` are the wait of `state_cvar_`; `read`, `waitZero`
  and what follows are the middle of `send`; the last six
  are `stop`. `undefined` is past a division by zero.
-/
inductive CallerPc where
| idle
| lockState (r : Request)
| enter (r : Request)
| waitWindow (t : Transfer)
| testRunning (t : Transfer)
| upperBound (t : Transfer)
| updateUpper (t : Transfer) (seq : Nat)
| lockPool (t : Transfer) (seq : Nat)
| emplace (t : Transfer) (seq : Nat)
| push (t : Transfer) (seq : Nat)
| unlockPool (t : Transfer)
| check (r : Request)
| wait (r : Request)
| relock (r : Request)
| finish (r : Request)
| read
| waitZero
| zeroRunning
| throughput
| undefined
| stopRunning
| stopTimer
| notifyTimer
| joinTimer
| joinSend
| joinRecv
| joinTimeout
deriving DecidableEq

/- Where `send_packet` returns to. -/
def Transfer.after : Transfer → CallerPc
| .request r => .check r
| .data _ => .read

/- The thread of `send_handler`. -/
inductive SendPc where
| test
| pop
| lockPool (seq : Nat)
| lockAcked (seq : Nat)
| checkAcked (seq : Nat)
| checkLower (seq : Nat)
| readLower (seq : Nat)
| readUpper (seq lower : Nat)
| retry (seq : Nat)
| lockState (seq : Nat)
| exhausted (seq : Nat)
| unlockState (leave : Bool)
| transmit (seq : Nat)
| register (seq : Nat)
| removeEvent (seq : Nat)
| unlockAcked (leave : Bool)
| unlockPool (leave : Bool)
| exit
deriving DecidableEq

/-
  The thread of `recv_handler`. `dispatch` up to `notify`
  are the switch on `state_`, `compare` up to `eraseAck` the
  go-back-n branch, `slide` the selective-repeat one.
  `undefined` is past a read outside the datagram.
-/
inductive RecvPc where
| test
| recv
| decode (bytes : List UInt8)
| dispatch (packet : Packet)
| lockState (target : SenderState) (packet : Packet)
| setState (target : SenderState) (packet : Packet)
| unlockState (packet : Packet)
| notify (packet : Packet)
| lockAcked (packet : Packet)
| insertAck (packet : Packet)
| compare (packet : Packet)
| fastLower (packet : Packet)
| fastUpper (packet : Packet) (lower : Nat)
| lockQueue (packet : Packet) (lower upper : Nat)
| pushAll (packet : Packet) (lower upper : Nat)
| unlockQueue (packet : Packet)
| countDup (packet : Packet)
| less (packet : Packet)
| setLower (packet : Packet)
| eraseAck (packet : Packet)
| slide
| unlockAcked
| exit
| undefined
deriving DecidableEq

/- The thread of `timeout_handler`. -/
inductive TimeoutPc where
| test
| wait
| readUpper
| lockQueue
| lockWindow
| map
| unlockWindow
| unlockQueue
| exit
deriving DecidableEq

/- The owners of the mutexes. -/
structure Locks where
  state : Option Thread
  packetPool : Option Thread
  ackedSeqSet : Option Thread
  queue : Option Thread
  window : Option Thread
deriving DecidableEq

end Nkurdt

------------------------------------------------------------
-- Sender
------------------------------------------------------------

namespace Nkurdt

/-
  What a run has done: the calls made and the results
  returned, the packets that `send_packet` built, the number
  of the request that the current call has built, the count
  of packets when that call began, the packets handed to the
  socket, the packets decoded by `recv_handler`, and the
  numbers for which `send_handler` found the retries used
  up.
-/
structure History where
  calls : List Call
  results : List CallResult
  packets : List Packet
  request : Option Nat
  callFirst : Nat
  wire : List (SocketAddr × Packet)
  received : List Packet
  exhausted : List Nat

namespace History

def empty : History where
  calls := []
  results := []
  packets := []
  request := none
  callFirst := 0
  wire := []
  received := []
  exhausted := []

/- The contents of the streams passed to `send`. -/
def streams (history : History) : List (List UInt8) :=
  history.calls.filterMap fun call =>
    match call with
    | .send is => some is.content
    | _ => none

end History

structure Sender where
  pendingQueue : ConcurrentQueue Nat
  timer : ConcurrentTimer Nat
  packetPool : UnorderedMap Nat Packet
  retryCount : UnorderedMap Nat Nat
  ackedSeqSet : Finset Nat
  window : ConcurrentWindow
  maxRetryCount : Nat
  state : SenderState
  timeout : Nat
  running : Bool
  selectiveRepeat : Bool
  fastRetransmit : Bool
  ackDupTimes : Nat
  peerAddr : SocketAddr
  locks : Locks
  clock : Nat
  callerPc : CallerPc
  callAddr : SocketAddr
  stream : IStream
  startTime : Nat
  totalBytes : Nat
  sendPc : SendPc
  recvPc : RecvPc
  timeoutPc : TimeoutPc
  history : History

/- The values that the setters configure. -/
structure SenderConfig where
  maxWindowSize : Nat
  maxRetryCount : Nat
  timeout : Nat
  selectiveRepeat : Bool
  fastRetransmit : Bool

namespace Sender

/- A configured sender that has not been initialised. -/
def make (config : SenderConfig) : Sender where
  pendingQueue := .empty
  timer := .make
  packetPool := .empty
  retryCount := .empty
  ackedSeqSet := ∅
  window := ⟨(0, 0), config.maxWindowSize⟩
  maxRetryCount := config.maxRetryCount
  state := .idle
  timeout := config.timeout
  running := false
  selectiveRepeat := config.selectiveRepeat
  fastRetransmit := config.fastRetransmit
  ackDupTimes := 0
  peerAddr := ⟨0, 0⟩
  locks := ⟨none, none, none, none, none⟩
  clock := 0
  callerPc := .idle
  callAddr := ⟨0, 0⟩
  stream := .eof
  startTime := 0
  totalBytes := 0
  sendPc := .exit
  recvPc := .exit
  timeoutPc := .exit
  history := .empty

/- `init`: start the timer and the three threads. -/
def init (s : Sender) : Sender :=
  { s with
    running := true
    state := .idle
    timer := s.timer.start
    window := s.window.setWindow 0 0
    sendPc := .test
    recvPc := .test
    timeoutPc := .test }

/- A sender right after its initialisation. -/
def fresh (config : SenderConfig) : Sender :=
  (make config).init

end Sender

end Nkurdt
