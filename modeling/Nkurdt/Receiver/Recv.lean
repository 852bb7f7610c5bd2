import Nkurdt.Library.Containers
import Nkurdt.Packet.RoundTrip
import Nkurdt.Packet.Socket

/-
  The receive coroutine.

  `Receiver` holds the members of the class together with
  the observable actions of the coroutine, in order, and
  with how far its loop has come. One iteration of the loop
  is `Receiver.recvStep`; behind the decoder it is
  `Receiver.onPacket`.

  Main declarations:
    * `ReceiverState`
    * `Event`
    * `Receiver`
    * `Receiver.slide`
    * `Receiver.onPacket`
    * `Receiver.recvStep`
    * `Client`
-/

------------------------------------------------------------
-- Receiver State
------------------------------------------------------------

namespace Nkurdt

inductive ReceiverState where
| idle
| connected
| receiving
deriving DecidableEq

/-
  The actions of the coroutine on its surroundings: a write
  to the output stream, a datagram handed to the socket, and
  a value yielded to the client.
-/
inductive Event where
| write (bytes : List UInt8)
| reply (addr : SocketAddr) (packet : Packet)
| yield (value : Bool)
deriving DecidableEq

/-
  How far the coroutine is: in its loop, past it, left by an
  exception, or past a read outside the datagram.
-/
inductive LoopStatus where
| looping
| ended
| threw
| undefined
deriving DecidableEq

structure Receiver where
  window : Nat × Nat
  recvBuffer : OrderedSet Packet Packet.seq
  peerAddr : Option SocketAddr
  maxWindowSize : Nat
  state : ReceiverState
  running : Bool
  selectiveRepeat : Bool
  osIsSet : Bool
  trace : List Event
  status : LoopStatus

namespace Receiver

/- A configured receiver that has not been started. -/
def make
    (maxWindowSize : Nat)
    (selectiveRepeat : Bool) : Receiver where
  window := (0, 0)
  recvBuffer := .empty
  peerAddr := none
  maxWindowSize := maxWindowSize
  state := .idle
  running := false
  selectiveRepeat := selectiveRepeat
  osIsSet := true
  trace := []
  status := .looping

/- The statements of `recv` before its loop. -/
def start (r : Receiver) : Receiver :=
  { r with
    state := .idle
    running := true
    window := (0, r.maxWindowSize % 2 ^ 32) }

/- A receiver at the head of a fresh receive loop. -/
def fresh
    (maxWindowSize : Nat)
    (selectiveRepeat : Bool) : Receiver :=
  (make maxWindowSize selectiveRepeat).start

end Receiver

end Nkurdt

------------------------------------------------------------
-- One Iteration of the Loop
------------------------------------------------------------

namespace Nkurdt

namespace Receiver

/- Record an action of the coroutine. -/
def emit
    (r : Receiver)
    (event : Event) : Receiver :=
  { r with trace := r.trace ++ [event] }

/- Send an acknowledgement, if the peer is known. -/
def reply
    (r : Receiver)
    (ackKind : PacketKind)
    (seq : Nat) : Receiver :=
  match r.peerAddr with
  | some addr =>
      r.emit (.reply addr ⟨version, ackKind, seq, []⟩)
  | none => r

/- Leave the loop and yield `false`. -/
def finish (r : Receiver) : Receiver :=
  { r.emit (.yield false) with status := .ended }

/-
  The switch on `state_`. Beside the receiver it returns
  `reply_ack`, which nothing reads, and `is_data_stop`.
-/
def switchState
    (r : Receiver)
    (packet : Packet)
    (addr : SocketAddr) : Receiver × Bool × Bool :=
  match r.state with
  | .idle =>
      if packet.kind = .connReq then
        ({ r with
            peerAddr := some addr
            state := .connected
            window :=
              (packet.seq,
                SequenceNumber.add packet.seq
                  (r.maxWindowSize % 2 ^ 32)) },
          true, false)
      else
        (r, false, false)
  | .receiving =>
      if packet.kind = .data then
        (r, true, false)
      else if packet.kind = .dataStop then
        ({ r with state := .connected }, true, true)
      else
        (r, false, false)
  | .connected =>
      if packet.kind = .dataPush then
        ({ r with state := .receiving }, true, false)
      else if packet.kind = .disconnReq then
        ({ r with state := .idle }, true, false)
      else
        (r, false, false)

/-
  One round of the slide loop; `none` when its condition
  fails or it breaks.
-/
def slideStep (r : Receiver) : Option Receiver :=
  match r.recvBuffer.first? with
  | none => none
  | some first =>
      if first.seq = r.window.1 then
        some
          { r with
            window :=
              (SequenceNumber.update r.window.1,
                SequenceNumber.update r.window.2)
            trace :=
              if r.osIsSet then
                r.trace ++ [.write first.payload]
              else
                r.trace
            recvBuffer := r.recvBuffer.eraseFirst }
      else
        none

/- At most `rounds` rounds of the slide loop. -/
def slide : Nat → Receiver → Receiver
| 0, r => r
| rounds + 1, r =>
    match r.slideStep with
    | none => r
    | some next => slide rounds next

/-
  Buffer the packet and slide. Every round removes an
  element, so the size of the buffer bounds the rounds
  (`slideStep_slide`).
-/
def insertAndSlide
    (r : Receiver)
    (packet : Packet) : Receiver :=
  let inserted :=
    { r with recvBuffer := r.recvBuffer.insert packet }
  inserted.slide inserted.recvBuffer.size

/- The part of the iteration behind the window checks. -/
def accept
    (r : Receiver)
    (packet : Packet)
    (ackKind : PacketKind)
    (addr : SocketAddr) : Receiver :=
  let (switched, _replyAck, isDataStop) :=
    r.switchState packet addr
  let slid := switched.insertAndSlide packet
  let replied :=
    if slid.selectiveRepeat then
      slid.reply ackKind packet.seq
    else
      slid.reply ackKind slid.window.1
  let yielded :=
    if isDataStop ∧ packet.seq < replied.window.1 then
      replied.emit (.yield true)
    else
      replied
  if yielded.state = .idle ∧
      packet.seq < yielded.window.1 then
    yielded.finish
  else
    yielded

/-
  An iteration of the loop on a decoded packet. The ack kind
  of a packet that is neither an ack nor a request is an
  empty optional, and taking its value throws.
-/
def onPacket
    (r : Receiver)
    (packet : Packet)
    (addr : SocketAddr) : Receiver :=
  if packet.isAck then
    r
  else
    match getAckKind packet.kind with
    | none => { r with status := .threw }
    | some ackKind =>
        if packet.seq < r.window.1 ∧ r.state ≠ .idle then
          if r.selectiveRepeat then
            r.reply ackKind packet.seq
          else
            r.reply ackKind r.window.1
        else if r.window.2 ≤ packet.seq ∧
            r.state ≠ .idle then
          if r.selectiveRepeat then
            r
          else
            r.reply ackKind r.window.1
        else
          r.accept packet ackKind addr

/- An iteration on what the socket returned. -/
def recvStep
    (r : Receiver)
    (result : RecvResult) : Receiver :=
  if r.status = .looping ∧ r.running then
    match result with
    | .error value =>
        if isFatalError value then
          { r with running := false }.finish
        else
          r
    | .datagram bytes addr =>
        match Packet.fromBytes bytes with
        | none => { r with status := .undefined }
        | some none => r
        | some (some packet) => r.onPacket packet addr
  else
    r

/- The loop on a sequence of results of the socket. -/
def recv
    (r : Receiver)
    (results : List RecvResult) : Receiver :=
  results.foldl recvStep r

/- An iteration on a packet, while the loop runs. -/
def packetStep
    (r : Receiver)
    (arrival : Packet × SocketAddr) : Option Receiver :=
  if r.status = .looping ∧ r.running then
    some (r.onPacket arrival.1 arrival.2)
  else
    none

/- The loop on a sequence of packets. -/
def recvPackets
    (r : Receiver)
    (arrivals : List (Packet × SocketAddr)) : Receiver :=
  arrivals.foldl
    (fun r arrival => (r.packetStep arrival).getD r) r

/- On a datagram that decodes, an iteration is a step. -/
theorem recvStep_of_fromBytes
    {r : Receiver}
    {bytes : List UInt8}
    {packet : Packet}
    (addr : SocketAddr)
    (hDecode :
      Packet.fromBytes bytes = some (some packet)) :
    r.recvStep (.datagram bytes addr) =
      (r.packetStep (packet, addr)).getD r := by
  unfold recvStep packetStep
  split_ifs with hLooping
  · simp [hDecode]
  · rfl

/- On datagrams that all decode, so is a run of the loop. -/
theorem recv_of_fromBytes
    {r : Receiver}
    {datagrams : List (List UInt8 × SocketAddr)}
    {arrivals : List (Packet × SocketAddr)}
    (hDecode :
      List.Forall₂
        (fun datagram arrival =>
          Packet.fromBytes datagram.1 =
              some (some arrival.1) ∧
            datagram.2 = arrival.2)
        datagrams arrivals) :
    r.recv
        (datagrams.map fun datagram =>
          .datagram datagram.1 datagram.2) =
      r.recvPackets arrivals := by
  unfold recv recvPackets
  induction hDecode generalizing r with
  | nil => rfl
  | cons hHead _ ih =>
      rename_i datagram arrival datagrams arrivals
      simp only [List.map_cons, List.foldl_cons]
      rw [recvStep_of_fromBytes _ hHead.1, hHead.2]
      exact ih

end Receiver

end Nkurdt

------------------------------------------------------------
-- Observations on the Trace
------------------------------------------------------------

namespace Nkurdt

namespace Event

/- The bytes written to the output stream. -/
def written (trace : List Event) : List UInt8 :=
  trace.flatMap fun event =>
    match event with
    | .write bytes => bytes
    | _ => []

/- The acknowledgements handed to the socket. -/
def replies (trace : List Event) : List Packet :=
  trace.filterMap fun event =>
    match event with
    | .reply _ packet => some packet
    | _ => none

@[simp] theorem written_append
    (left right : List Event) :
    written (left ++ right) =
      written left ++ written right := by
  simp [written]

@[simp] theorem replies_append
    (left right : List Event) :
    replies (left ++ right) =
      replies left ++ replies right := by
  simp [replies]

@[simp] theorem written_nil : written [] = [] :=
  rfl

@[simp] theorem written_write
    (bytes : List UInt8) :
    written [.write bytes] = bytes := by
  simp [written]

@[simp] theorem written_reply
    (addr : SocketAddr)
    (packet : Packet) :
    written [.reply addr packet] = [] :=
  rfl

@[simp] theorem written_yield
    (value : Bool) :
    written [.yield value] = [] :=
  rfl

@[simp] theorem replies_nil : replies [] = [] :=
  rfl

@[simp] theorem replies_write
    (bytes : List UInt8) :
    replies [.write bytes] = [] :=
  rfl

@[simp] theorem replies_reply
    (addr : SocketAddr)
    (packet : Packet) :
    replies [.reply addr packet] = [packet] :=
  rfl

@[simp] theorem replies_yield
    (value : Bool) :
    replies [.yield value] = [] :=
  rfl

end Event

/-
  The file receiver: the part of the string stream it has
  not read yet, and the contents of the files it has written
  so far, one for every `true` the coroutine yields.
-/
structure Client where
  unread : List UInt8
  files : List (List UInt8)
deriving DecidableEq

namespace Client

def observe
    (client : Client) : Event → Client
| .write bytes =>
    { client with unread := client.unread ++ bytes }
| .reply _ _ => client
| .yield true =>
    ⟨[], client.files ++ [client.unread]⟩
| .yield false => client

/- The file receiver after the actions of a trace. -/
def ofTrace (trace : List Event) : Client :=
  trace.foldl observe ⟨[], []⟩

@[simp] theorem ofTrace_nil :
    ofTrace [] = ⟨[], []⟩ :=
  rfl

@[simp] theorem ofTrace_append_singleton
    (trace : List Event)
    (event : Event) :
    ofTrace (trace ++ [event]) =
      (ofTrace trace).observe event := by
  simp [ofTrace]

end Client

end Nkurdt
