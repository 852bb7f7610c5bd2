import Nkurdt.Receiver.Recv

/-
  The slide loop and the parts of the receiver that each
  function of the loop body leaves alone.

  The loop is reasoned about through its rounds: a property
  that every round keeps holds after the loop, and after
  enough rounds no further round is possible.

  Main declarations:
    * `Receiver.slideStep_eq_some`
    * `Receiver.slide_invariant`
    * `Receiver.slideStep_slide`
    * `Receiver.SameControl`
    * `Receiver.onPacket_cases`
-/

------------------------------------------------------------
-- The Slide Loop
------------------------------------------------------------

namespace Nkurdt

namespace Receiver

/- A round pops the expected packet and writes it. -/
theorem slideStep_eq_some
    {r next : Receiver}
    (hStep : r.slideStep = some next) :
    ∃ first,
      r.recvBuffer.first? = some first ∧
      first.seq = r.window.1 ∧
      next =
        { r with
          window :=
            (SequenceNumber.update r.window.1,
              SequenceNumber.update r.window.2)
          trace :=
            if r.osIsSet then
              r.trace ++ [.write first.payload]
            else
              r.trace
          recvBuffer := r.recvBuffer.eraseFirst } := by
  unfold slideStep at hStep
  cases hFirst : r.recvBuffer.first? with
  | none =>
      simp [hFirst] at hStep
  | some first =>
      by_cases hExpected : first.seq = r.window.1
      · simp only [hFirst, hExpected, if_true,
          Option.some.injEq] at hStep
        exact ⟨first, rfl, hExpected, hStep.symm⟩
      · simp [hFirst, hExpected] at hStep

/- Without a round, the expected number is not buffered. -/
theorem window_ne_of_slideStep_none
    {r : Receiver}
    (hStep : r.slideStep = none)
    (hLow : ∀ p ∈ r.recvBuffer, r.window.1 ≤ p.seq) :
    ∀ p ∈ r.recvBuffer, r.window.1 < p.seq := by
  intro p hMember
  cases hFirst : r.recvBuffer.first? with
  | none =>
      exact absurd hMember
        (OrderedSet.first?_eq_none hFirst p)
  | some first =>
      have hLeast := OrderedSet.first?_eq_some hFirst
      have hUnexpected : first.seq ≠ r.window.1 := by
        intro hExpected
        simp [slideStep, hFirst, hExpected] at hStep
      have hFirstLow := hLow first hLeast.1
      have hBelow := hLeast.2 p hMember
      omega

/- The rule for the slide loop. -/
theorem slide_invariant
    {Inv : Receiver → Prop}
    (hStep :
      ∀ current next,
        Inv current →
        current.slideStep = some next →
        Inv next)
    (rounds : Nat)
    {r : Receiver}
    (hStart : Inv r) :
    Inv (r.slide rounds) := by
  induction rounds generalizing r with
  | zero => exact hStart
  | succ rounds ih =>
      unfold slide
      cases hNext : r.slideStep with
      | none => exact hStart
      | some next => exact ih (hStep r next hStart hNext)

/- With a round for each element the loop runs to its end. -/
theorem slideStep_slide
    (rounds : Nat)
    {r : Receiver}
    (hRounds : r.recvBuffer.size ≤ rounds) :
    (r.slide rounds).slideStep = none := by
  induction rounds generalizing r with
  | zero =>
      have hEmpty :
          r.recvBuffer.first? = none :=
        OrderedSet.first?_of_size_zero (by omega)
      simp [slide, slideStep, hEmpty]
  | succ rounds ih =>
      unfold slide
      cases hNext : r.slideStep with
      | none => exact hNext
      | some next =>
          rcases slideStep_eq_some hNext with
            ⟨first, hFirst, _, rfl⟩
          have hSize :=
            OrderedSet.size_eraseFirst hFirst
          exact ih (by
            change r.recvBuffer.eraseFirst.size ≤ rounds
            omega)

theorem slideStep_insertAndSlide
    (r : Receiver)
    (packet : Packet) :
    (r.insertAndSlide packet).slideStep = none :=
  slideStep_slide _ le_rfl

/- The rule for buffering a packet and sliding. -/
theorem insertAndSlide_invariant
    {Inv : Receiver → Prop}
    (hStep :
      ∀ current next,
        Inv current →
        current.slideStep = some next →
        Inv next)
    {r : Receiver}
    {packet : Packet}
    (hStart :
      Inv { r with
        recvBuffer := r.recvBuffer.insert packet }) :
    Inv (r.insertAndSlide packet) :=
  slide_invariant hStep _ hStart

end Receiver

end Nkurdt

------------------------------------------------------------
-- What Sliding Leaves Alone
------------------------------------------------------------

namespace Nkurdt

namespace Receiver

/-
  Two receivers that differ in the window, the buffer and
  the bytes written only.
-/
structure SameControl (r r' : Receiver) : Prop where
  peerAddr : r'.peerAddr = r.peerAddr
  maxWindowSize : r'.maxWindowSize = r.maxWindowSize
  state : r'.state = r.state
  running : r'.running = r.running
  selectiveRepeat : r'.selectiveRepeat = r.selectiveRepeat
  osIsSet : r'.osIsSet = r.osIsSet
  status : r'.status = r.status
  replies : Event.replies r'.trace = Event.replies r.trace

theorem slideStep_sameControl
    {origin r next : Receiver}
    (hSame : SameControl origin r)
    (hStep : r.slideStep = some next) :
    SameControl origin next := by
  rcases slideStep_eq_some hStep with ⟨first, _, _, rfl⟩
  refine
    ⟨hSame.peerAddr, hSame.maxWindowSize, hSame.state,
      hSame.running, hSame.selectiveRepeat, hSame.osIsSet,
      hSame.status, ?_⟩
  rw [← hSame.replies]
  dsimp only
  split_ifs <;> simp

theorem insertAndSlide_sameControl
    (r : Receiver)
    (packet : Packet) :
    SameControl r (r.insertAndSlide packet) :=
  insertAndSlide_invariant
    (fun _ _ => slideStep_sameControl)
    ⟨rfl, rfl, rfl, rfl, rfl, rfl, rfl, rfl⟩

section Frame

variable (r : Receiver) (packet : Packet)

@[simp] theorem peerAddr_insertAndSlide :
    (r.insertAndSlide packet).peerAddr = r.peerAddr :=
  (insertAndSlide_sameControl r packet).peerAddr

@[simp] theorem maxWindowSize_insertAndSlide :
    (r.insertAndSlide packet).maxWindowSize =
      r.maxWindowSize :=
  (insertAndSlide_sameControl r packet).maxWindowSize

@[simp] theorem state_insertAndSlide :
    (r.insertAndSlide packet).state = r.state :=
  (insertAndSlide_sameControl r packet).state

@[simp] theorem running_insertAndSlide :
    (r.insertAndSlide packet).running = r.running :=
  (insertAndSlide_sameControl r packet).running

@[simp] theorem selectiveRepeat_insertAndSlide :
    (r.insertAndSlide packet).selectiveRepeat =
      r.selectiveRepeat :=
  (insertAndSlide_sameControl r packet).selectiveRepeat

@[simp] theorem osIsSet_insertAndSlide :
    (r.insertAndSlide packet).osIsSet = r.osIsSet :=
  (insertAndSlide_sameControl r packet).osIsSet

@[simp] theorem status_insertAndSlide :
    (r.insertAndSlide packet).status = r.status :=
  (insertAndSlide_sameControl r packet).status

@[simp] theorem replies_insertAndSlide :
    Event.replies (r.insertAndSlide packet).trace =
      Event.replies r.trace :=
  (insertAndSlide_sameControl r packet).replies

end Frame

end Receiver

end Nkurdt

------------------------------------------------------------
-- What an Iteration Does
------------------------------------------------------------

namespace Nkurdt

namespace Receiver

/- The action of sending an ack, if the peer is known. -/
def replyEvents
    (r : Receiver)
    (ackKind : PacketKind)
    (seq : Nat) : List Event :=
  match r.peerAddr with
  | some addr => [.reply addr ⟨version, ackKind, seq, []⟩]
  | none => []

theorem reply_eq
    (r : Receiver)
    (ackKind : PacketKind)
    (seq : Nat) :
    r.reply ackKind seq =
      { r with
        trace := r.trace ++ r.replyEvents ackKind seq } := by
  rcases r with ⟨window, buffer, _ | addr, size, state,
    running, mode, os, trace, status⟩
  · simp [reply, replyEvents]
  · simp [reply, replyEvents, emit]

@[simp] theorem written_replyEvents
    (r : Receiver)
    (ackKind : PacketKind)
    (seq : Nat) :
    Event.written (r.replyEvents ackKind seq) = [] := by
  unfold replyEvents
  cases r.peerAddr <;> simp

theorem yield_not_mem_replyEvents
    (r : Receiver)
    (ackKind : PacketKind)
    (seq : Nat)
    (value : Bool) :
    .yield value ∉ r.replyEvents ackKind seq := by
  unfold replyEvents
  cases r.peerAddr <;> simp

/- The only packet a reply can send. -/
theorem mem_replies_replyEvents
    {r : Receiver}
    {ackKind : PacketKind}
    {seq : Nat}
    {ack : Packet}
    (hMember :
      ack ∈ Event.replies (r.replyEvents ackKind seq)) :
    r.peerAddr.isSome ∧
      ack = ⟨version, ackKind, seq, []⟩ := by
  unfold replyEvents at hMember
  cases hPeer : r.peerAddr with
  | none => simp [hPeer] at hMember
  | some addr => simpa [hPeer] using hMember

/- The number an acknowledgement of a packet carries. -/
def ackNumber
    (r : Receiver)
    (packet : Packet) : Nat :=
  if r.selectiveRepeat then packet.seq else r.window.1

/- The actions behind the slide loop of an iteration. -/
def acceptEvents
    (r : Receiver)
    (packet : Packet)
    (ackKind : PacketKind)
    (isDataStop : Bool) : List Event :=
  r.replyEvents ackKind (r.ackNumber packet) ++
    (if isDataStop ∧ packet.seq < r.window.1 then
      [.yield true]
    else
      []) ++
    (if r.state = .idle ∧ packet.seq < r.window.1 then
      [.yield false]
    else
      [])

theorem accept_eq
    (r : Receiver)
    (packet : Packet)
    (ackKind : PacketKind)
    (addr : SocketAddr) :
    r.accept packet ackKind addr =
      let slid :=
        (r.switchState packet addr).1.insertAndSlide packet
      { slid with
        trace :=
          slid.trace ++
            slid.acceptEvents packet ackKind
              (r.switchState packet addr).2.2
        status :=
          if slid.state = .idle ∧
              packet.seq < slid.window.1 then
            .ended
          else
            slid.status } := by
  unfold accept acceptEvents ackNumber
  generalize r.switchState packet addr = switched
  rcases switched with ⟨switched, replyAck, isDataStop⟩
  dsimp only
  generalize switched.insertAndSlide packet = slid
  simp only [reply_eq, emit, finish]
  split_ifs <;> simp_all

/-
  The three things an iteration can do with a request: reply
  to a duplicate, turn away a packet above the window, or
  accept.
-/
theorem onPacket_cases
    {r : Receiver}
    {packet : Packet}
    {ackKind : PacketKind}
    (addr : SocketAddr)
    (hAck : getAckKind packet.kind = some ackKind) :
    (packet.seq < r.window.1 ∧ r.state ≠ .idle ∧
        r.onPacket packet addr =
          r.reply ackKind (r.ackNumber packet)) ∨
      (r.window.1 ≤ packet.seq ∧
        r.window.2 ≤ packet.seq ∧ r.state ≠ .idle ∧
        r.onPacket packet addr =
          if r.selectiveRepeat then
            r
          else
            r.reply ackKind r.window.1) ∨
      ((r.state = .idle ∨
          r.window.1 ≤ packet.seq ∧
            packet.seq < r.window.2) ∧
        r.onPacket packet addr =
          r.accept packet ackKind addr) := by
  have hNotAck : packet.isAck = false := by
    unfold Packet.isAck
    cases hKind : packet.kind <;>
      simp_all [getAckKind, PacketKind.isAck]
  unfold onPacket ackNumber
  simp only [hNotAck, hAck, Bool.false_eq_true, if_false]
  by_cases hIdle : r.state = .idle
  · simp [hIdle]
  · by_cases hLow : packet.seq < r.window.1
    · refine Or.inl ⟨hLow, hIdle, ?_⟩
      rw [if_pos ⟨hLow, hIdle⟩]
      split_ifs <;> rfl
    · by_cases hHigh : r.window.2 ≤ packet.seq
      · refine Or.inr (Or.inl
          ⟨not_lt.mp hLow, hHigh, hIdle, ?_⟩)
        simp [hLow, hHigh, hIdle]
      · refine Or.inr (Or.inr ⟨Or.inr ?_, ?_⟩)
        · omega
        · simp [hLow, hHigh]

end Receiver

end Nkurdt
