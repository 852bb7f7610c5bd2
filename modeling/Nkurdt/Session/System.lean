import Nkurdt.Receiver.Recv
import Nkurdt.Sender.Transfers

/-
  A sender and a receiver with a network between them.

  The threads of the sender and the loop of the receiver
  interleave. The network hands over what the other side has
  sent: it can lose, duplicate, delay and reorder datagrams,
  and does not change them.

  Main declarations:
    * `Session`
    * `Session.step`
    * `Session.Carries`
    * `Session.Undisturbed`
    * `Session.Connected`
-/

------------------------------------------------------------
-- Steps of a Session
------------------------------------------------------------

namespace Nkurdt

structure Session where
  sender : Sender
  receiver : Receiver

namespace Session

/-
  An initialised sender and a receiver at the head of its
  loop, in the same mode.
-/
def fresh
    (config : SenderConfig)
    (maxWindowSize : Nat) : Session :=
  ⟨Sender.fresh config,
    Receiver.fresh maxWindowSize config.selectiveRepeat⟩

/-
  A step of the sender, or an iteration of the receiver on
  what its socket returns.
-/
inductive Action where
| sender (action : Sender.Action)
| receive (result : RecvResult)

def step (x : Session) : Action → Option Session
| .sender action =>
    (x.sender.step action).map fun sender =>
      { x with sender := sender }
| .receive result =>
    some { x with receiver := x.receiver.recvStep result }

/- The packets that the sender has handed to its socket. -/
def requests (x : Session) : List Packet :=
  x.sender.history.wire.map Prod.snd

/- The packets that the receiver has handed to its socket. -/
def replies (x : Session) : List Packet :=
  Event.replies x.receiver.trace

end Session

end Nkurdt

------------------------------------------------------------
-- Network and Assumptions
------------------------------------------------------------

namespace Nkurdt

namespace Session

/-
  What a socket returns: a datagram that has been sent at
  some time, or an error that is not fatal.
-/
def Carries (sent : List Packet) : RecvResult → Prop
| .error value => isFatalError value = false
| .datagram bytes _ =>
    ∃ packet ∈ sent, bytes = packet.toBytes

instance (sent : List Packet) (result : RecvResult) :
    Decidable (Carries sent result) := by
  rcases result with ⟨⟩ | ⟨⟩
  all_goals
    unfold Carries
    infer_instance

def Delivers (x : Session) : Action → Prop
| .sender (.recv result) => Carries x.replies result
| .receive result => Carries x.requests result
| _ => True

instance (x : Session) (action : Action) :
    Decidable (x.Delivers action) := by
  unfold Delivers
  rcases action with ⟨⟨⟩⟩ | _
  all_goals infer_instance

/- The calls are made in the order of a session. -/
def CallsFollow (x : Session) : Action → Prop
| .sender (.call call) =>
    call.Follows x.sender.history.calls
| _ => True

instance (x : Session) (action : Action) :
    Decidable (x.CallsFollow action) := by
  unfold CallsFollow
  rcases action with ⟨⟨⟩⟩ | _
  all_goals infer_instance

/-
  A step of a session in which no retries are used up, the
  sender runs, and neither window comes to the wrap.
-/
structure Undisturbed
    (x : Session)
    (action : Action)
    (x' : Session) : Prop where
  delivers : x.Delivers action
  follows : x.CallsFollow action
  exhausted : x'.sender.history.exhausted = []
  running : x'.sender.running = true
  senderRoom :
    x'.sender.window.upperBound +
      x'.sender.window.maxWindowSize < 2 ^ 32
  receiverRoom :
    x'.sender.window.upperBound +
      x'.receiver.maxWindowSize < 2 ^ 32

instance (x : Session) (action : Action) (x' : Session) :
    Decidable (Undisturbed x action x') :=
  decidable_of_iff
    (x.Delivers action ∧ x.CallsFollow action ∧
      x'.sender.history.exhausted = [] ∧
      x'.sender.running = true ∧
      x'.sender.window.upperBound +
        x'.sender.window.maxWindowSize < 2 ^ 32 ∧
      x'.sender.window.upperBound +
        x'.receiver.maxWindowSize < 2 ^ 32)
    ⟨fun hAll => ⟨hAll.1, hAll.2.1, hAll.2.2.1,
        hAll.2.2.2.1, hAll.2.2.2.2.1, hAll.2.2.2.2.2⟩,
      fun hStep => ⟨hStep.delivers, hStep.follows,
        hStep.exhausted, hStep.running, hStep.senderRoom,
        hStep.receiverRoom⟩⟩

/- The call of `disconnect`. -/
def Disconnects : Action → Prop
| .sender (.call call) => call.isDisconnect = true
| _ => False

instance (action : Action) :
    Decidable (Disconnects action) := by
  unfold Disconnects
  rcases action with ⟨⟨⟩⟩ | _
  all_goals infer_instance

/- Such a step before any disconnection. -/
structure Connected
    (x : Session)
    (action : Action)
    (x' : Session) : Prop
    extends Undisturbed x action x' where
  stays : ¬ Disconnects action

instance (x : Session) (action : Action) (x' : Session) :
    Decidable (Connected x action x') :=
  decidable_of_iff
    (Undisturbed x action x' ∧ ¬ Disconnects action)
    ⟨fun hBoth => ⟨hBoth.1, hBoth.2⟩,
      fun hStep => ⟨hStep.toUndisturbed, hStep.stays⟩⟩

end Session

end Nkurdt

------------------------------------------------------------
-- Parts of a Schedule
------------------------------------------------------------

namespace Nkurdt

namespace Session

/- A thread of the sender takes some steps in a row. -/
def steps
    (thread : Thread)
    (count : Nat) : List Action :=
  (Sender.steps thread count).map .sender

/- A datagram of the sender reaches the receiver. -/
def arrives (packet : Packet) : Action :=
  .receive (.datagram packet.toBytes ⟨0, 2⟩)

/-
  `recv_handler` gets an acknowledgement and handles it in
  the given number of steps.
-/
def answer
    (kind : PacketKind)
    (seq count : Nat) : List Action :=
  steps .recvHandler 1 ++
    [.sender (.recv (.datagram
      (Packet.toBytes ⟨version, kind, seq, []⟩) ⟨0, 1⟩))] ++
    steps .recvHandler count

/-
  A queued packet is sent, arrives, and is acknowledged.
-/
def exchange
    (packet : Packet)
    (kind : PacketKind)
    (seq count : Nat) : List Action :=
  steps .sendHandler 13 ++ [arrives packet] ++
    answer kind seq count

end Session

end Nkurdt
