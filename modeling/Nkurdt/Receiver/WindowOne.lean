import Nkurdt.Receiver.ControlState

/-
  Go-back-n with a window of one packet.

  `PlainReceiver` keeps the expected number and no buffer.
  With a window of one packet the loop accepts the expected
  packet only, so that the packet leaves the buffer in the
  iteration in which it enters it, and the receiver does
  what the plain one does.

  Main declarations:
    * `PlainReceiver`
    * `PlainReceiver.step`
    * `PlainReceiver.Simulates`
    * `PlainReceiver.simulates_onPacket`
    * `PlainReceiver.simulates_recvPackets`
-/

------------------------------------------------------------
-- The Plain Receiver
------------------------------------------------------------

namespace Nkurdt

/- A connected receiver that keeps one number. -/
structure PlainReceiver where
  expected : Nat
  state : ReceiverState
  peer : SocketAddr
  trace : List Event
  ended : Bool

namespace PlainReceiver

/- The reply to a packet, for the given expected number. -/
def ack
    (p : PlainReceiver)
    (ackKind : PacketKind)
    (expected : Nat) : Event :=
  .reply p.peer ⟨version, ackKind, expected, []⟩

/- The packet is the end of a transfer. -/
def Stops (p : PlainReceiver) (packet : Packet) : Prop :=
  p.state = .receiving ∧ packet.kind = .dataStop

instance (p : PlainReceiver) (packet : Packet) :
    Decidable (p.Stops packet) :=
  inferInstanceAs (Decidable (_ ∧ _))

/- The packet is the end of the session. -/
def Ends (p : PlainReceiver) (packet : Packet) : Prop :=
  p.state = .connected ∧ packet.kind = .disconnReq

instance (p : PlainReceiver) (packet : Packet) :
    Decidable (p.Ends packet) :=
  inferInstanceAs (Decidable (_ ∧ _))

/- The plain receiver on a request, up to its end. -/
def step
    (p : PlainReceiver)
    (packet : Packet) : PlainReceiver :=
  match p.ended, getAckKind packet.kind with
  | false, some ackKind =>
      if packet.seq = p.expected then
        { p with
          expected := p.expected + 1
          state := controlStep p.state packet.kind
          trace :=
            p.trace ++ [.write packet.payload] ++
              ([p.ack ackKind (p.expected + 1)] ++
                (if p.Stops packet then
                  [.yield true]
                else
                  []) ++
                (if p.Ends packet then
                  [.yield false]
                else
                  []))
          ended := p.Ends packet }
      else
        { p with
          trace := p.trace ++ [p.ack ackKind p.expected] }
  | _, _ => p

/- The plain receiver on a sequence of requests. -/
def run
    (p : PlainReceiver)
    (packets : List Packet) : PlainReceiver :=
  packets.foldl step p

/- The plain receiver behind the first connection request. -/
def connected
    (packet : Packet)
    (addr : SocketAddr) : PlainReceiver where
  expected := packet.seq + 1
  state := .connected
  peer := addr
  trace :=
    [.write packet.payload,
      .reply addr ⟨version, .connAck, packet.seq + 1, []⟩]
  ended := false

/- The receiver is where the plain one is. -/
structure Simulates
    (p : PlainReceiver)
    (r : Receiver) : Prop where
  bounded : p.expected < 2 ^ 32
  window :
    r.window =
      (p.expected, SequenceNumber.update p.expected)
  recvBuffer : r.recvBuffer = .empty
  peerAddr : r.peerAddr = some p.peer
  state : r.state = p.state
  trace : r.trace = p.trace
  status :
    r.status = if p.ended then .ended else .looping
  running : r.running = true
  selectiveRepeat : r.selectiveRepeat = false
  osIsSet : r.osIsSet = true
  open_ : p.ended = false → p.state ≠ .idle

end PlainReceiver

end Nkurdt

------------------------------------------------------------
-- One Packet
------------------------------------------------------------

namespace Nkurdt

namespace Receiver

/- The expected packet passes through an empty buffer. -/
theorem insertAndSlide_of_empty
    {r : Receiver}
    {packet : Packet}
    (hBuffer : r.recvBuffer = .empty)
    (hExpected : packet.seq = r.window.1)
    (hSet : r.osIsSet = true) :
    r.insertAndSlide packet =
      { r with
        window :=
          (SequenceNumber.update r.window.1,
            SequenceNumber.update r.window.2)
        trace := r.trace ++ [.write packet.payload] } := by
  rcases r with ⟨window, buffer, peer, size, state, running,
    mode, os, trace, status⟩
  dsimp only at hBuffer hExpected hSet
  subst hBuffer hSet
  simp [insertAndSlide, slide, slideStep, OrderedSet.insert,
    OrderedSet.insertList, OrderedSet.empty, OrderedSet.size,
    OrderedSet.first?, OrderedSet.eraseFirst, hExpected]

/- Connected, the switch moves the state and nothing else. -/
theorem switchState_eq
    {r : Receiver}
    (packet : Packet)
    (addr : SocketAddr)
    (hState : r.state ≠ .idle) :
    (r.switchState packet addr).1 =
        { r with
          state := controlStep r.state packet.kind } ∧
      ((r.switchState packet addr).2.2 = true ↔
        r.state = .receiving ∧ packet.kind = .dataStop) := by
  rcases r with ⟨window, buffer, peer, size, state, running,
    mode, os, trace, status⟩
  unfold switchState
  cases state with
  | idle => exact absurd rfl hState
  | connected =>
      cases hKind : packet.kind <;> simp [controlStep]
  | receiving =>
      cases hKind : packet.kind <;> simp [controlStep]

end Receiver

/- The automaton goes idle by a disconnection request. -/
theorem controlStep_eq_idle_iff
    {state : ReceiverState}
    {kind : PacketKind}
    (hState : state ≠ .idle) :
    controlStep state kind = .idle ↔
      state = .connected ∧ kind = .disconnReq := by
  cases state with
  | idle => exact absurd rfl hState
  | connected => cases kind <;> simp [controlStep]
  | receiving => cases kind <;> simp [controlStep]

namespace PlainReceiver

/- A packet that is not expected triggers the reply only. -/
theorem onPacket_of_ne
    {p : PlainReceiver}
    {r : Receiver}
    {packet : Packet}
    {ackKind : PacketKind}
    (addr : SocketAddr)
    (hSimulates : p.Simulates r)
    (hOpen : p.ended = false)
    (hAck : getAckKind packet.kind = some ackKind)
    (hSeq : packet.seq < 2 ^ 32 - 1)
    (hOther : packet.seq ≠ p.expected) :
    r.onPacket packet addr =
      { r with
        trace := r.trace ++ [p.ack ackKind p.expected] } := by
  have hBounded := hSimulates.bounded
  have hReply :
      r.reply ackKind p.expected =
        { r with
          trace := r.trace ++ [p.ack ackKind p.expected] } := by
    rw [Receiver.reply_eq]
    unfold Receiver.replyEvents
    rw [hSimulates.peerAddr]
    rfl
  have hUpper :
      p.expected + 1 < 2 ^ 32 →
        r.window.2 = p.expected + 1 := by
    intro hRoom
    rw [hSimulates.window]
    exact SequenceNumber.update_of_lt hRoom
  have hLower : r.window.1 = p.expected := by
    rw [hSimulates.window]
  have hMode : ¬ r.selectiveRepeat = true := by
    rw [hSimulates.selectiveRepeat]
    exact Bool.false_ne_true
  rcases Receiver.onPacket_cases addr hAck with
    ⟨_, _, hStep⟩ | ⟨_, _, _, hStep⟩ | ⟨hInside, hStep⟩
  · rw [hStep]
    unfold Receiver.ackNumber
    rw [if_neg hMode, hLower]
    exact hReply
  · rw [hStep, if_neg hMode, hLower]
    exact hReply
  · exfalso
    rcases hInside with hIdle | ⟨hLow, hHigh⟩
    · rw [hSimulates.state] at hIdle
      exact hSimulates.open_ hOpen hIdle
    · rw [hLower] at hLow
      rw [hUpper (by omega)] at hHigh
      omega

/- The expected packet is what both receivers accept. -/
theorem simulates_accept
    {p : PlainReceiver}
    {r : Receiver}
    {packet : Packet}
    {ackKind : PacketKind}
    (addr : SocketAddr)
    (hSimulates : p.Simulates r)
    (hOpen : p.ended = false)
    (hAck : getAckKind packet.kind = some ackKind)
    (hSeq : packet.seq < 2 ^ 32 - 1)
    (hExpected : packet.seq = p.expected) :
    (p.step packet).Simulates
      (r.accept packet ackKind addr) := by
  have hState : r.state ≠ .idle := by
    rw [hSimulates.state]
    exact hSimulates.open_ hOpen
  have hNext :
      SequenceNumber.update p.expected = p.expected + 1 :=
    SequenceNumber.update_of_lt (by omega)
  have hSwitch := Receiver.switchState_eq packet addr hState
  have hStop :
      (r.switchState packet addr).2.2 = true ∧
          packet.seq < p.expected + 1 ↔
        p.Stops packet := by
    rw [hSwitch.2, hSimulates.state]
    exact and_iff_left (by omega)
  have hIdle :
      controlStep r.state packet.kind = .idle ∧
          packet.seq < p.expected + 1 ↔
        p.Ends packet := by
    rw [controlStep_eq_idle_iff hState, hSimulates.state]
    exact and_iff_left (by omega)
  have hMode : ¬ r.selectiveRepeat = true := by
    rw [hSimulates.selectiveRepeat]
    exact Bool.false_ne_true
  have hLower : packet.seq = r.window.1 := by
    rw [hSimulates.window]
    exact hExpected
  have hSlid :
      (r.switchState packet addr).1.insertAndSlide packet =
        { r with
          state := controlStep r.state packet.kind
          window :=
            (p.expected + 1,
              SequenceNumber.update (p.expected + 1))
          trace := r.trace ++ [.write packet.payload] } := by
    have hPass :=
      @Receiver.insertAndSlide_of_empty
        { r with state := controlStep r.state packet.kind }
        packet hSimulates.recvBuffer hLower
        hSimulates.osIsSet
    rw [hSwitch.1, hPass]
    dsimp only
    rw [hSimulates.window, hNext]
  have hOldStatus : r.status = .looping := by
    rw [hSimulates.status, hOpen]
    rfl
  rw [Receiver.accept_eq, hSlid]
  unfold step Receiver.acceptEvents Receiver.replyEvents
    Receiver.ackNumber
  rw [hOpen, hAck]
  dsimp only
  rw [if_pos hExpected, if_neg hMode, hSimulates.peerAddr]
  simp only [hStop, hIdle]
  refine
    { bounded := by dsimp only; omega
      window := rfl
      recvBuffer := hSimulates.recvBuffer
      peerAddr := rfl
      state := ?_
      trace := ?_
      status := ?_
      running := hSimulates.running
      selectiveRepeat := hSimulates.selectiveRepeat
      osIsSet := hSimulates.osIsSet
      open_ := ?_ }
  · dsimp only
    rw [hSimulates.state]
  · dsimp only
    rw [hSimulates.trace]
    rfl
  · dsimp only
    rw [hOldStatus]
    by_cases hEnds : p.Ends packet
    · simp [hEnds]
    · simp [hEnds]
  · intro hGoesOn hNowIdle
    dsimp only at hGoesOn hNowIdle
    rw [← hSimulates.state,
      controlStep_eq_idle_iff hState, hSimulates.state]
      at hNowIdle
    exact of_decide_eq_false hGoesOn hNowIdle

/- On every request the two do the same. -/
theorem simulates_onPacket
    {p : PlainReceiver}
    {r : Receiver}
    {packet : Packet}
    (addr : SocketAddr)
    (hSimulates : p.Simulates r)
    (hOpen : p.ended = false)
    (hRequest : (getAckKind packet.kind).isSome)
    (hSeq : packet.seq < 2 ^ 32 - 1) :
    (p.step packet).Simulates (r.onPacket packet addr) := by
  rcases Option.isSome_iff_exists.mp hRequest with
    ⟨ackKind, hAck⟩
  by_cases hExpected : packet.seq = p.expected
  · have hAccept :
        r.onPacket packet addr =
          r.accept packet ackKind addr := by
      have hNext :
          SequenceNumber.update p.expected =
            p.expected + 1 :=
        SequenceNumber.update_of_lt (by omega)
      have hWindow := hSimulates.window
      rw [hNext] at hWindow
      rcases Receiver.onPacket_cases addr hAck with
        ⟨hLow, _, _⟩ | ⟨_, hHigh, _, _⟩ | ⟨_, hStep⟩
      · rw [hWindow] at hLow
        omega
      · rw [hWindow] at hHigh
        omega
      · exact hStep
    rw [hAccept]
    exact simulates_accept addr hSimulates hOpen hAck hSeq
      hExpected
  · rw [onPacket_of_ne addr hSimulates hOpen hAck hSeq
      hExpected]
    unfold step
    rw [hOpen, hAck]
    dsimp only
    rw [if_neg hExpected]
    refine { hSimulates with
      trace := ?_
      status := ?_
      open_ := fun _ => hSimulates.open_ hOpen }
    · dsimp only
      rw [hSimulates.trace]
    · rw [hSimulates.status, hOpen]

end PlainReceiver

end Nkurdt

------------------------------------------------------------
-- Runs
------------------------------------------------------------

namespace Nkurdt

namespace PlainReceiver

/- The first connection request makes the two agree. -/
theorem simulates_connReq
    {packet : Packet}
    (addr : SocketAddr)
    (hKind : packet.kind = .connReq)
    (hSeq : packet.seq < 2 ^ 32 - 1) :
    (connected packet addr).Simulates
      ((Receiver.fresh 1 false).onPacket packet addr) := by
  have hAck : getAckKind packet.kind = some .connAck := by
    rw [hKind]
    rfl
  have hNext :
      SequenceNumber.update packet.seq = packet.seq + 1 :=
    SequenceNumber.update_of_lt (by omega)
  have hRoom :
      SequenceNumber.add packet.seq 1 = packet.seq + 1 :=
    SequenceNumber.add_of_lt (by omega)
  have hAccept :
      (Receiver.fresh 1 false).onPacket packet addr =
        (Receiver.fresh 1 false).accept packet .connAck
          addr := by
    rcases @Receiver.onPacket_cases
        (Receiver.fresh 1 false) packet .connAck addr
        hAck with
      ⟨_, hState, _⟩ | ⟨_, _, hState, _⟩ | ⟨_, hStep⟩
    · exact absurd rfl hState
    · exact absurd rfl hState
    · exact hStep
  have hSwitch :
      (Receiver.fresh 1 false).switchState packet addr =
        ({ Receiver.fresh 1 false with
            peerAddr := some addr
            state := .connected
            window := (packet.seq, packet.seq + 1) },
          true, false) := by
    rw [← hRoom]
    exact if_pos hKind
  have hPass :=
    @Receiver.insertAndSlide_of_empty
      { Receiver.fresh 1 false with
        peerAddr := some addr
        state := .connected
        window := (packet.seq, packet.seq + 1) }
      packet rfl rfl rfl
  dsimp only at hPass
  rw [hNext] at hPass
  rw [hAccept, Receiver.accept_eq, hSwitch]
  dsimp only
  rw [hPass]
  refine
    { bounded := by dsimp only [connected]; omega
      window := rfl
      recvBuffer := rfl
      peerAddr := rfl
      state := rfl
      trace := ?_
      status := rfl
      running := rfl
      selectiveRepeat := rfl
      osIsSet := rfl
      open_ := fun _ hIdle => by cases hIdle }
  simp [Receiver.acceptEvents, Receiver.replyEvents,
    Receiver.ackNumber, Receiver.fresh, Receiver.make,
    Receiver.start, connected]

/- Neither does anything once the loop has ended. -/
theorem simulates_packetStep
    {p : PlainReceiver}
    {r : Receiver}
    {arrival : Packet × SocketAddr}
    (hSimulates : p.Simulates r)
    (hRequest : (getAckKind arrival.1.kind).isSome)
    (hSeq : arrival.1.seq < 2 ^ 32 - 1) :
    (p.step arrival.1).Simulates
      ((r.packetStep arrival).getD r) := by
  have hStatus := hSimulates.status
  unfold Receiver.packetStep
  cases hEnded : p.ended with
  | false =>
      rw [hEnded] at hStatus
      rw [if_pos ⟨hStatus, hSimulates.running⟩]
      exact simulates_onPacket arrival.2 hSimulates hEnded
        hRequest hSeq
  | true =>
      rw [hEnded] at hStatus
      have hNot :
          ¬ (r.status = .looping ∧ r.running = true) := by
        rw [hStatus]
        exact fun hLooping => by cases hLooping.1
      have hStay : p.step arrival.1 = p := by
        unfold step
        rw [hEnded]
      rw [if_neg hNot, hStay]
      exact hSimulates

/-
  With a window of one packet, behind the connection request
  that it receives first, the go-back-n receiver sends,
  writes and yields what the plain receiver does, in the
  same order, and ends with it. Its buffer is empty after
  every iteration.
-/
theorem simulates_recvPackets
    {packet : Packet}
    {addr : SocketAddr}
    {arrivals : List (Packet × SocketAddr)}
    (hKind : packet.kind = .connReq)
    (hFirst : packet.seq < 2 ^ 32 - 1)
    (hArrivals :
      ∀ arrival ∈ arrivals,
        (getAckKind arrival.1.kind).isSome ∧
          arrival.1.seq < 2 ^ 32 - 1) :
    ((connected packet addr).run
        (arrivals.map Prod.fst)).Simulates
      ((Receiver.fresh 1 false).recvPackets
        ((packet, addr) :: arrivals)) := by
  have hRun :
      ∀ (p : PlainReceiver) (r : Receiver),
        p.Simulates r →
          (p.run (arrivals.map Prod.fst)).Simulates
            (r.recvPackets arrivals) := by
    induction arrivals with
    | nil => exact fun _ _ hSimulates => hSimulates
    | cons arrival arrivals ih =>
        intro p r hSimulates
        have hHead := hArrivals arrival List.mem_cons_self
        apply ih
        · exact fun later hLater =>
            hArrivals later (List.mem_cons_of_mem _ hLater)
        · exact simulates_packetStep hSimulates hHead.1
            hHead.2
  apply hRun
  have hLooping :
      (Receiver.fresh 1 false).packetStep (packet, addr) =
        some ((Receiver.fresh 1 false).onPacket packet
          addr) :=
    if_pos ⟨rfl, rfl⟩
  dsimp only
  rw [hLooping]
  exact simulates_connReq addr hKind hFirst

/- A `DataPush` that arrives twice is answered twice. -/
theorem simulates_recvPackets_twice :
    ((connected (Receiver.request .connReq 0).1
          ⟨0, 0⟩).run
        [(Receiver.request .dataPush 1).1,
          (Receiver.request .dataPush 1).1]).Simulates
      ((Receiver.fresh 1 false).recvPackets
        [((Receiver.request .connReq 0).1, ⟨0, 0⟩),
          Receiver.request .dataPush 1,
          Receiver.request .dataPush 1]) := by
  have hArrivals :
      ∀ arrival ∈ [Receiver.request .dataPush 1,
          Receiver.request .dataPush 1],
        (getAckKind arrival.1.kind).isSome ∧
          arrival.1.seq < 2 ^ 32 - 1 := by
    intro arrival hMember
    simp only [List.mem_cons, List.not_mem_nil, or_false,
      or_self] at hMember
    rw [hMember]
    decide
  exact @simulates_recvPackets
    (Receiver.request .connReq 0).1 ⟨0, 0⟩ _ rfl (by decide)
    hArrivals

end PlainReceiver

end Nkurdt
