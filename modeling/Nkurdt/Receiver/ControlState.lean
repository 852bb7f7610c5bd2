import Nkurdt.Receiver.Delivery

/-
  The control state against the delivered order.

  The automaton `controlStep` consumes packets in sequence
  order. The receiver changes its state when a packet
  arrives, so the two agree in a run exactly as long as no
  packet ahead of the expected one triggers a transition and
  the packets that an expected one lets through trigger none
  between them.

  Main declarations:
    * `controlStep`
    * `controlFrom`
    * `Receiver.InOrder`
    * `Receiver.follows_onPacket`
    * `Receiver.state_eq_of_inOrder`
-/

------------------------------------------------------------
-- The Automaton
------------------------------------------------------------

namespace Nkurdt

/- The control transition that a kind triggers. -/
def controlStep :
    ReceiverState → PacketKind → ReceiverState
| .idle, .connReq => .connected
| .connected, .dataPush => .receiving
| .connected, .disconnReq => .idle
| .receiving, .dataStop => .connected
| state, _ => state

/- The automaton on the numbers from `a` up to `b`. -/
def controlFrom
    (K : Nat → PacketKind)
    (state : ReceiverState)
    (a b : Nat) : ReceiverState :=
  ((List.range' a (b - a)).map K).foldl controlStep state

@[simp] theorem controlFrom_self
    (K : Nat → PacketKind)
    (state : ReceiverState)
    (a : Nat) :
    controlFrom K state a a = state := by
  simp [controlFrom]

theorem controlFrom_succ
    {K : Nat → PacketKind}
    {state : ReceiverState}
    {a b : Nat}
    (hLess : a < b) :
    controlFrom K state a b =
      controlFrom K (controlStep state (K a)) (a + 1) b := by
  unfold controlFrom
  have hCount : b - a = (b - (a + 1)) + 1 := by
    omega
  rw [hCount, List.range'_succ]
  rfl

/- A run of the automaton can be cut anywhere. -/
theorem controlFrom_trans
    {K : Nat → PacketKind}
    {state : ReceiverState}
    {a b m : Nat}
    (hLow : a ≤ b)
    (hHigh : b ≤ m) :
    controlFrom K state a m =
      controlFrom K (controlFrom K state a b) b m := by
  unfold controlFrom
  have hCount : m - a = (b - a) + (m - b) := by
    omega
  have hStart : b = a + 1 * (b - a) := by
    omega
  rw [hCount, ← List.range'_append, ← hStart,
    List.map_append, List.foldl_append]

namespace Receiver

/- The switch moves `state_` by the automaton. -/
theorem state_switchState
    (r : Receiver)
    (packet : Packet)
    (addr : SocketAddr) :
    (r.switchState packet addr).1.state =
      controlStep r.state packet.kind := by
  unfold switchState
  cases hState : r.state <;> cases hKind : packet.kind <;>
    simp [controlStep, hState]

end Receiver

end Nkurdt

------------------------------------------------------------
-- One Iteration Against the Automaton
------------------------------------------------------------

namespace Nkurdt

namespace Receiver

/- The state that the delivered numbers determine. -/
def Follows
    (K : Nat → PacketKind)
    (c : Nat)
    (r : Receiver) : Prop :=
  r.state = controlFrom K .idle c r.window.1

/-
  The packets that an arrival lets through trigger the same
  transition as the arriving one alone. A packet ahead of
  the expected one lets nothing through; the expected one
  lets through itself and the buffered packets directly
  above it, up to the next missing number.
-/
structure InOrder
    (K : Nat → PacketKind)
    (r : Receiver)
    (packet : Packet) : Prop where
  ahead :
    r.window.1 < packet.seq →
      packet.seq < r.window.2 →
      controlStep r.state packet.kind = r.state
  expected :
    packet.seq = r.window.1 →
      packet.seq < r.window.2 →
      ∀ m, packet.seq < m →
        (∀ n, packet.seq < n → n < m → r.Held n) →
        ¬ r.Held m →
        controlFrom K (controlStep r.state packet.kind)
            (packet.seq + 1) m =
          controlStep r.state packet.kind

/-
  A packet ahead of the expected one, or outside the window,
  lets nothing through.
-/
theorem lower_onPacket_of_ne
    {r : Receiver}
    {packet : Packet}
    (addr : SocketAddr)
    (hRequest : (getAckKind packet.kind).isSome)
    (hRoomy : r.Roomy packet)
    (hState : r.state ≠ .idle)
    (hSettled : r.Settled)
    (hOther : packet.seq = r.window.1 →
      ¬ r.InWindow packet.seq) :
    (r.onPacket packet addr).window.1 = r.window.1 := by
  have hHeld :=
    held_onPacket addr hRequest hRoomy hState hSettled
  have hNotBelow :
      ¬ r.window.1 < (r.onPacket packet addr).window.1 := by
    intro hBelow
    rcases (hHeld.1 r.window.1).mp (Or.inl hBelow) with
      hOld | ⟨hNumber, hInside⟩
    · exact hSettled.not_held_lower hOld
    · exact hOther hNumber.symm (hNumber ▸ hInside)
  have hLower := hHeld.2
  omega

/-
  The expected packet lets through itself and the held
  numbers directly above it.
-/
theorem lower_onPacket_of_eq
    {r : Receiver}
    {packet : Packet}
    (addr : SocketAddr)
    (hRequest : (getAckKind packet.kind).isSome)
    (hRoomy : r.Roomy packet)
    (hState : r.state ≠ .idle)
    (hSettled : r.Settled)
    (hExpected : packet.seq = r.window.1)
    (hInside : r.InWindow packet.seq) :
    packet.seq < (r.onPacket packet addr).window.1 ∧
      (∀ n, packet.seq < n →
        n < (r.onPacket packet addr).window.1 →
        r.Held n) ∧
      ¬ r.Held (r.onPacket packet addr).window.1 := by
  have hNext :=
    settled_onPacket addr hRequest hRoomy hState hSettled
  have hHeld :=
    held_onPacket addr hRequest hRoomy hState hSettled
  refine ⟨?_, ?_, ?_⟩
  · have hLower := hHeld.2
    rw [← hExpected] at hLower
    apply lt_of_le_of_ne hLower
    intro hSame
    apply hNext.not_held_lower
    rw [← hSame]
    exact (hHeld.1 _).mpr (Or.inr ⟨rfl, hInside⟩)
  · intro n hAbove hBelow
    rcases (hHeld.1 n).mp (Or.inl hBelow) with
      hOld | ⟨hNumber, _⟩
    · exact hOld
    · exact absurd hNumber hAbove.ne'
  · intro hOld
    exact hNext.not_held_lower
      ((hHeld.1 _).mpr (Or.inl hOld))

/-
  An iteration of a connected session keeps the state with
  the delivered numbers if and only if the arrival is in
  order.
-/
theorem follows_onPacket
    {K : Nat → PacketKind}
    {c : Nat}
    {r : Receiver}
    {packet : Packet}
    (addr : SocketAddr)
    (hRequest : (getAckKind packet.kind).isSome)
    (hRoomy : r.Roomy packet)
    (hState : r.state ≠ .idle)
    (hSettled : r.Settled)
    (hBase : c ≤ r.window.1)
    (hKind : packet.kind = K packet.seq)
    (hFollows : r.Follows K c) :
    (r.onPacket packet addr).Follows K c ↔
      r.InOrder K packet := by
  have hHeld :=
    held_onPacket addr hRequest hRoomy hState hSettled
  have hCut :
      controlFrom K .idle c
          (r.onPacket packet addr).window.1 =
        controlFrom K (controlFrom K .idle c r.window.1)
          r.window.1 (r.onPacket packet addr).window.1 :=
    controlFrom_trans hBase hHeld.2
  unfold Follows at hFollows ⊢
  rw [state_onPacket addr hRequest hState,
    state_switchState, hCut, ← hFollows]
  by_cases hInside : r.InWindow packet.seq
  · rw [if_pos hInside]
    by_cases hExpected : packet.seq = r.window.1
    · have hLower :=
        lower_onPacket_of_eq addr hRequest hRoomy hState
          hSettled hExpected hInside
      rw [← hExpected, controlFrom_succ hLower.1, ← hKind]
      constructor
      · intro hSame
        refine ⟨fun hAhead => absurd hAhead (by omega), ?_⟩
        intro _ _ m hAbove hFilled hMissing
        have hNumber :
            m = (r.onPacket packet addr).window.1 := by
          rcases Nat.lt_trichotomy m
            (r.onPacket packet addr).window.1 with
              hLess | hEqual | hGreater
          · exact absurd (hLower.2.1 m hAbove hLess) hMissing
          · exact hEqual
          · exact absurd (hFilled _ hLower.1 hGreater)
              hLower.2.2
        rw [hNumber]
        exact hSame.symm
      · intro hOrder
        exact (hOrder.expected hExpected hInside.2 _
          hLower.1 hLower.2.1 hLower.2.2).symm
    · have hLower :=
        lower_onPacket_of_ne addr hRequest hRoomy hState
          hSettled (fun hEqual => absurd hEqual hExpected)
      rw [hLower, controlFrom_self]
      constructor
      · intro hSame
        exact ⟨fun _ _ => hSame,
          fun hEqual => absurd hEqual hExpected⟩
      · intro hOrder
        exact hOrder.ahead
          (lt_of_le_of_ne hInside.1 (Ne.symm hExpected))
          hInside.2
  · have hLower :=
      lower_onPacket_of_ne addr hRequest hRoomy hState
        hSettled (fun _ => hInside)
    rw [if_neg hInside, hLower, controlFrom_self]
    refine ⟨fun _ => ⟨?_, ?_⟩, fun _ => rfl⟩
    · intro hAhead hBelow
      exact absurd ⟨hAhead.le, hBelow⟩ hInside
    · intro hExpected hBelow
      exact absurd ⟨hExpected.ge, hBelow⟩ hInside

end Receiver

end Nkurdt

------------------------------------------------------------
-- Runs of a Numbered Stream
------------------------------------------------------------

namespace Nkurdt

namespace Receiver

open Runs

/- The arrival is a packet of the numbered stream. -/
def StreamArrives
    (K : Nat → PacketKind)
    (r : Receiver)
    (arrival : Packet × SocketAddr) : Prop :=
  r.RequestArrives arrival ∧
    arrival.1.kind = K arrival.1.seq

instance
    (K : Nat → PacketKind)
    (r : Receiver)
    (arrival : Packet × SocketAddr) :
    Decidable (r.StreamArrives K arrival) :=
  inferInstanceAs (Decidable (_ ∧ _))

/-
  What every in-order run keeps: the state follows, and the
  idle state is only reached by leaving the loop.
-/
structure Following
    (K : Nat → PacketKind)
    (c : Nat)
    (r : Receiver) : Prop where
  settled : r.Settled
  base : c ≤ r.window.1
  follows : r.Follows K c
  connected : r.status = .looping → r.state ≠ .idle

/- A delivered packet that leads to the idle state ends. -/
theorem status_onPacket_of_idle
    {r : Receiver}
    {packet : Packet}
    (addr : SocketAddr)
    (hRequest : (getAckKind packet.kind).isSome)
    (hState : r.state ≠ .idle)
    (hNext : (r.onPacket packet addr).state = .idle)
    (hDelivered :
      packet.seq < (r.onPacket packet addr).window.1) :
    (r.onPacket packet addr).status = .ended := by
  rcases Option.isSome_iff_exists.mp hRequest with
    ⟨ackKind, hAck⟩
  rw [state_onPacket addr hRequest hState] at hNext
  split_ifs at hNext with hInside
  · rw [onPacket_of_inWindow addr hAck hInside,
      accept_eq] at hDelivered ⊢
    dsimp only at hDelivered ⊢
    rw [if_pos ⟨by simpa using hNext, hDelivered⟩]
  · exact absurd hNext hState

theorem following_onPacket
    {K : Nat → PacketKind}
    {c : Nat}
    {r : Receiver}
    {arrival : Packet × SocketAddr}
    (hFollowing : Following K c r)
    (hLooping : r.status = .looping)
    (hArrival : r.StreamArrives K arrival)
    (hOrder : r.InOrder K arrival.1) :
    Following K c (r.onPacket arrival.1 arrival.2) := by
  rcases arrival with ⟨packet, addr⟩
  have hState := hFollowing.connected hLooping
  have hRequest := hArrival.1.1
  have hRoomy := hArrival.1.2
  have hSettled := hFollowing.settled
  have hHeld :=
    held_onPacket addr hRequest hRoomy hState hSettled
  refine
    { settled :=
        settled_onPacket addr hRequest hRoomy hState hSettled
      base := hFollowing.base.trans hHeld.2
      follows :=
        (follows_onPacket addr hRequest hRoomy hState
          hSettled hFollowing.base hArrival.2
          hFollowing.follows).mpr hOrder
      connected := ?_ }
  intro hStatus hIdle
  have hDelivered :
      ¬ packet.seq < (r.onPacket packet addr).window.1 := by
    intro hBelow
    have hEnded :=
      status_onPacket_of_idle addr hRequest hState hIdle
        hBelow
    rw [hEnded] at hStatus
    cases hStatus
  rw [state_onPacket addr hRequest hState] at hIdle
  split_ifs at hIdle with hInside
  · rw [state_switchState] at hIdle
    by_cases hExpected : packet.seq = r.window.1
    · exact hDelivered
        (lower_onPacket_of_eq addr hRequest hRoomy hState
          hSettled hExpected hInside).1
    · have hSame := hOrder.ahead
        (lt_of_le_of_ne hInside.1 (Ne.symm hExpected))
        hInside.2
      exact hState (hSame.symm.trans hIdle)
  · exact hState hIdle

/- The connection request starts the session in order. -/
theorem following_connReq
    {w : Nat}
    {selectiveRepeat : Bool}
    {K : Nat → PacketKind}
    {first : Packet × SocketAddr}
    (hSize : 1 ≤ w)
    (hKind : first.1.kind = .connReq)
    (hStream : K first.1.seq = .connReq)
    (hRoomy : first.1.seq + w < 2 ^ 32) :
    Following K first.1.seq
      ((fresh w selectiveRepeat).onPacket
        first.1 first.2) := by
  have hRun :
      Delivering w selectiveRepeat
        (fun _ => first.1.payload) first.1.seq
        [first.1.seq]
        ((fresh w selectiveRepeat).onPacket
          first.1 first.2) :=
    delivering_connReq first.2 hSize hKind hRoomy rfl
  have hLower :
      ((fresh w selectiveRepeat).onPacket
        first.1 first.2).window.1 = first.1.seq + 1 := by
    have hHeld := hRun.held
    have hMissing := hRun.settled.not_held_lower
    have hFirst :=
      (hHeld first.1.seq).mpr (Or.inr (by simp))
    rw [hHeld] at hMissing
    simp only [List.mem_singleton, not_or] at hMissing
    have hNext :
        ¬ Held ((fresh w selectiveRepeat).onPacket
          first.1 first.2) (first.1.seq + 1) := by
      rw [hHeld]
      simp
    have hNotBelow :
        ¬ first.1.seq + 1 <
          ((fresh w selectiveRepeat).onPacket
            first.1 first.2).window.1 :=
      fun hBelow => hNext (Or.inl hBelow)
    omega
  refine
    { settled := hRun.settled
      base := hRun.streams.base
      follows := ?_
      connected := fun _ => hRun.connected }
  unfold Follows
  rw [hLower, controlFrom_succ (Nat.lt_succ_self _),
    controlFrom_self, hStream,
    onPacket_connReq first.2 hKind rfl, accept_eq]
  simp [state_switchState, hKind, fresh, start]

/-
  In every run on a numbered stream whose arrivals are all
  in order, the state while the loop runs is the one that
  the delivered numbers determine.
-/
theorem state_eq_of_inOrder
    {w : Nat}
    {selectiveRepeat : Bool}
    {K : Nat → PacketKind}
    {c : Nat}
    {first : Packet × SocketAddr}
    {r : Receiver}
    (hSize : 1 ≤ w)
    (hFirst : first.1.kind = .connReq ∧ first.1.seq = c)
    (hStream : K c = .connReq)
    (hRoomy : c + w < 2 ^ 32)
    (hReach :
      Reaches packetStep
        (fun current arrival _ =>
          current.StreamArrives K arrival ∧
            current.InOrder K arrival.1)
        ((fresh w selectiveRepeat).onPacket
          first.1 first.2) r)
    (hLooping : r.status = .looping) :
    r.state = controlFrom K .idle c r.window.1 ∧
      r.state ≠ .idle := by
  rcases hFirst with ⟨hKind, rfl⟩
  have hRun : Following K first.1.seq r := by
    refine hReach.invariant
      (following_connReq hSize hKind hStream hRoomy) ?_
    intro current arrival next hCurrent hNext hAllowed
    unfold packetStep at hNext
    split_ifs at hNext with hRunning
    rw [← Option.some.inj hNext]
    exact following_onPacket hCurrent hRunning.1
      hAllowed.1 hAllowed.2
  exact ⟨hRun.follows, hRun.connected hLooping⟩

/- A stream that pushes right after its connection. -/
def pushStream : Nat → PacketKind
| 0 => .connReq
| 1 => .dataPush
| _ => .data

/- The push of this stream, in order. -/
theorem state_eq_of_inOrder_push :
    (((fresh 2 true).onPacket
        (request .connReq 0).1 ⟨0, 0⟩).onPacket
          (request .dataPush 1).1 ⟨0, 0⟩).state =
      controlFrom pushStream .idle 0 2 := by
  have hReach :
      Reaches packetStep
        (fun current arrival _ =>
          current.StreamArrives pushStream arrival ∧
            current.InOrder pushStream arrival.1)
        ((fresh 2 true).onPacket
          (request .connReq 0).1 ⟨0, 0⟩)
        (((fresh 2 true).onPacket
          (request .connReq 0).1 ⟨0, 0⟩).onPacket
            (request .dataPush 1).1 ⟨0, 0⟩) := by
    apply Reaches.tail .refl
    · exact (rfl :
        packetStep _ (request .dataPush 1) = _)
    · refine ⟨by decide, ⟨by decide, ?_⟩⟩
      intro _ _ m hAbove hFilled _
      have hNotHeld :
          ¬ ((fresh 2 true).onPacket
            (request .connReq 0).1 ⟨0, 0⟩).Held 2 := by
        decide
      have hNumber : m = 2 := by
        by_contra hOther
        have hLess : 1 < m := hAbove
        exact hNotHeld (hFilled 2 (by decide) (by omega))
      rw [hNumber]
      decide
  exact (state_eq_of_inOrder (by decide) ⟨rfl, rfl⟩ rfl
    (by decide) hReach (by decide)).1

/- A stream whose second packet is data. -/
def lateStream : Nat → PacketKind
| 0 => .connReq
| 1 => .data
| _ => .dataPush

/-
  A push that overtakes a data packet changes the state
  before it is delivered.
-/
theorem exists_state_ne_controlFrom :
    ∃ r,
      Reaches packetStep
        (fun current arrival _ =>
          current.StreamArrives lateStream arrival)
        ((fresh 2 true).onPacket
          (request .connReq 0).1 ⟨0, 0⟩) r ∧
      (r.status = .looping ∧
        r.state ≠
          controlFrom lateStream .idle 0 r.window.1) :=
  exists_reaches_of_runActions
    [request .dataPush 2]
    (by decide +kernel)

end Receiver

end Nkurdt
