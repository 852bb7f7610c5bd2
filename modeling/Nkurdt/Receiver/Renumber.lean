import Nkurdt.Packet.Shift
import Nkurdt.Receiver.Slide

/-
  The receiver on shifted sequence numbers.

  The window moves by modular arithmetic, which a shift does
  not change. What a shift can change are the comparisons:
  of the number of a packet with the window, and of the
  numbers in the buffer with each other. An iteration whose
  comparisons are between numbers on one side of the wrap
  does the same thing to the shifted receiver.

  Main declarations:
    * `Receiver.Decision`
    * `Receiver.renumber`
    * `Receiver.OneSided`
    * `Receiver.ComparesOnOneSide`
    * `Receiver.recvStep_renumber`
    * `Receiver.decision_renumber_iff`
-/

------------------------------------------------------------
-- Decisions
------------------------------------------------------------

namespace Nkurdt

namespace Receiver

/- What an iteration decides about a packet. -/
inductive Decision where
| ignored
| thrown
| duplicate
| outOfWindow
| accepted
deriving DecidableEq

def decision
    (r : Receiver)
    (packet : Packet) : Decision :=
  if packet.isAck then
    .ignored
  else if getAckKind packet.kind = none then
    .thrown
  else if packet.seq < r.window.1 ∧ r.state ≠ .idle then
    .duplicate
  else if r.window.2 ≤ packet.seq ∧ r.state ≠ .idle then
    .outOfWindow
  else
    .accepted

/- The iteration does what has been decided. -/
theorem onPacket_decision
    (r : Receiver)
    (packet : Packet)
    (addr : SocketAddr) :
    r.onPacket packet addr =
      match r.decision packet, getAckKind packet.kind with
      | .thrown, _ => { r with status := .threw }
      | .duplicate, some ackKind =>
          r.reply ackKind (r.ackNumber packet)
      | .outOfWindow, some ackKind =>
          if r.selectiveRepeat then
            r
          else
            r.reply ackKind r.window.1
      | .accepted, some ackKind =>
          r.accept packet ackKind addr
      | _, _ => r := by
  unfold onPacket decision ackNumber
  cases hKind : getAckKind packet.kind with
  | none => split_ifs <;> simp_all
  | some ackKind =>
      simp only [reduceCtorEq, if_false]
      split_ifs <;> rfl

/- The packet that an iteration takes. -/
def taken?
    (r : Receiver) : RecvResult → Option Packet
| .error _ => none
| .datagram bytes _ =>
    if r.status = .looping ∧ r.running then
      (Packet.fromBytes bytes).join
    else
      none

/- The decisions of the loop on what the socket returns. -/
def decisions :
    Receiver → List RecvResult → List (Option Decision)
| _, [] => []
| r, result :: results =>
    (r.taken? result).map r.decision ::
      decisions (r.recvStep result) results

end Receiver

end Nkurdt

------------------------------------------------------------
-- Renumbered Receivers
------------------------------------------------------------

namespace Nkurdt

open SequenceNumber

/- The action with the number of its packet shifted. -/
def Event.renumber (b : Nat) : Event → Event
| .write bytes => .write bytes
| .reply addr packet => .reply addr (packet.renumber b)
| .yield value => .yield value

/- The payloads are the same. -/
theorem Event.written_renumber
    (b : Nat)
    (trace : List Event) :
    written (trace.map (renumber b)) = written trace := by
  induction trace with
  | nil => rfl
  | cons event trace ih =>
      unfold written at ih ⊢
      rw [List.map_cons, List.flatMap_cons,
        List.flatMap_cons, ih]
      cases event <;> rfl

namespace Receiver

/- The receiver with all its numbers shifted. -/
def renumber
    (r : Receiver)
    (b : Nat) : Receiver :=
  { r with
    window := (shift b r.window.1, shift b r.window.2)
    recvBuffer := r.recvBuffer.image (Packet.renumber b)
    trace := r.trace.map (Event.renumber b) }

/-
  The window and the buffer lie on one side of the wrap, and
  the numbers after those in the buffer do.
-/
structure OneSided (b : Nat) (r : Receiver) : Prop where
  first_lt : r.window.1 < 2 ^ 32
  second_lt : r.window.2 < 2 ^ 32
  succ_lt : ∀ p ∈ r.recvBuffer, p.seq + 1 < 2 ^ 32
  buffered :
    ∀ p ∈ r.recvBuffer, SameSide b p.seq r.window.1
  following :
    ∀ p ∈ r.recvBuffer, SameSide b (p.seq + 1) r.window.1

/-
  The iteration on the packet compares numbers on one side of
  the wrap. In the idle state there are no window checks, but
  the packet is buffered, and a connection request moves the
  window.
-/
def ComparesOnOneSide
    (b : Nat)
    (r : Receiver)
    (packet : Packet) : Prop :=
  getAckKind packet.kind ≠ none →
    if r.state = .idle then
      (SameSide b packet.seq r.window.1 ∨
          packet.kind = .connReq ∧
            r.recvBuffer.elems = []) ∧
        packet.seq + 1 < 2 ^ 32 ∧
        SameSide b (packet.seq + 1) packet.seq
    else
      SameSide b packet.seq r.window.1 ∧
        (packet.seq < r.window.1 ∨
          SameSide b r.window.2 r.window.1)

instance (b : Nat) (r : Receiver) (packet : Packet) :
    Decidable (ComparesOnOneSide b r packet) :=
  inferInstanceAs (Decidable (_ → ite _ _ _))

/- The decision about a request, outside the idle state. -/
theorem decision_of_request
    {r : Receiver}
    {packet : Packet}
    (hKind : getAckKind packet.kind ≠ none)
    (hState : r.state ≠ .idle) :
    r.decision packet =
      if packet.seq < r.window.1 then
        .duplicate
      else if packet.seq < r.window.2 then
        .accepted
      else
        .outOfWindow := by
  have hNotAck : packet.isAck = false := by
    unfold Packet.isAck
    cases hName : packet.kind <;>
      simp_all [getAckKind, PacketKind.isAck]
  unfold decision
  rw [hNotAck, if_neg Bool.false_ne_true, if_neg hKind]
  by_cases hLow : packet.seq < r.window.1
  · rw [if_pos ⟨hLow, hState⟩, if_pos hLow]
  · rw [if_neg (fun hBoth => hLow hBoth.1), if_neg hLow]
    by_cases hHigh : packet.seq < r.window.2
    · rw [if_neg (fun hBoth => not_le.mpr hHigh hBoth.1),
        if_pos hHigh]
    · rw [if_pos ⟨not_lt.mp hHigh, hState⟩, if_neg hHigh]

/- Two chains of window checks that end in the same branch. -/
theorem checks_eq_iff
    {p p' q q' : Prop}
    [Decidable p]
    [Decidable p']
    [Decidable q]
    [Decidable q'] :
    (if p' then Decision.duplicate
      else if q' then .accepted else .outOfWindow) =
        (if p then .duplicate
          else if q then .accepted else .outOfWindow) ↔
      (p' ↔ p) ∧ (¬ p → (q' ↔ q)) := by
  by_cases hp : p
  all_goals by_cases hp' : p'
  all_goals by_cases hq : q
  all_goals by_cases hq' : q'
  all_goals simp [hp, hp', hq, hq']

/-
  The decision about a request is the same if and only if the
  comparisons are on one side.
-/
theorem decision_renumber_iff
    {b : Nat}
    {r : Receiver}
    {packet : Packet}
    (hBase : b < 2 ^ 32)
    (hSided : OneSided b r)
    (hSeq : packet.seq < 2 ^ 32)
    (hKind : getAckKind packet.kind ≠ none)
    (hState : r.state ≠ .idle) :
    (r.renumber b).decision (packet.renumber b) =
        r.decision packet ↔
      ComparesOnOneSide b r packet := by
  have hFirst := hSided.first_lt
  have hSecond := hSided.second_lt
  have hShifted :
      (r.renumber b).decision (packet.renumber b) =
        if shift b packet.seq < shift b r.window.1 then
          .duplicate
        else if shift b packet.seq < shift b r.window.2 then
          .accepted
        else
          .outOfWindow :=
    decision_of_request hKind hState
  rw [hShifted, decision_of_request hKind hState,
    checks_eq_iff]
  unfold ComparesOnOneSide
  rw [if_neg hState]
  constructor
  · rintro ⟨hBelow, hAbove⟩ _
    have hSide :=
      sameSide_of_lt_iff hSeq hFirst hBelow
    refine ⟨hSide, ?_⟩
    by_cases hLow : packet.seq < r.window.1
    · exact Or.inl hLow
    · exact Or.inr
        ((sameSide_of_lt_iff hSeq hSecond
          (hAbove hLow)).symm.trans hSide)
  · intro hCompares
    obtain ⟨hSide, hHigh⟩ := hCompares hKind
    refine ⟨shift_lt_shift hBase hSide, ?_⟩
    intro hLow
    exact shift_lt_shift hBase
      (hSide.trans (hHigh.resolve_left hLow).symm)

end Receiver

end Nkurdt

------------------------------------------------------------
-- The Slide Loop
------------------------------------------------------------

namespace Nkurdt

open SequenceNumber

namespace Receiver

/- In a buffer on one side the order is kept. -/
theorem shift_le_of_oneSided
    {b : Nat}
    {r : Receiver}
    (hBase : b < 2 ^ 32)
    (hSided : OneSided b r)
    {p q : Packet}
    (hLeft : p ∈ r.recvBuffer)
    (hRight : q ∈ r.recvBuffer)
    (hLe : p.seq ≤ q.seq) :
    shift b p.seq ≤ shift b q.seq := by
  have hSide :=
    (hSided.buffered q hRight).trans
      (hSided.buffered p hLeft).symm
  have hOrder := shift_lt_shift hBase hSide
  exact not_lt.mp (mt hOrder.mp (not_lt.mpr hLe))

theorem slideStep_renumber
    {b : Nat}
    {r : Receiver}
    (hBase : b < 2 ^ 32)
    (hSided : OneSided b r) :
    (r.renumber b).slideStep =
      r.slideStep.map (fun next => next.renumber b) := by
  have hKeys := Packet.seq_renumber_eq b
  have hReflects := fun p q => (hKeys p q).mp
  unfold slideStep
  cases hFirst : r.recvBuffer.first? with
  | none =>
      have hNone :
          (r.renumber b).recvBuffer.first? = none :=
        OrderedSet.first?_image_of_none hReflects hFirst
      rw [hNone]
      rfl
  | some first =>
      have hLeast :
          ∀ q ∈ r.recvBuffer,
            (first.renumber b).seq ≤ (q.renumber b).seq := by
        intro q hMember
        have hLow := OrderedSet.first?_eq_some hFirst
        exact shift_le_of_oneSided hBase hSided hLow.1
          hMember (hLow.2 q hMember)
      have hSome :
          (r.renumber b).recvBuffer.first? =
            some (first.renumber b) :=
        OrderedSet.first?_image hReflects hFirst hLeast
      have hErased :=
        OrderedSet.eraseFirst_image hKeys hFirst hLeast
      rw [hSome]
      dsimp only
      by_cases hExpected : first.seq = r.window.1
      · have hSame :
            (first.renumber b).seq =
              (r.renumber b).window.1 := by
          change shift b first.seq = shift b r.window.1
          rw [hExpected]
        rw [if_pos hExpected, if_pos hSame, Option.map_some]
        unfold renumber
        dsimp only
        rw [hErased, update_shift hSided.first_lt,
          update_shift hSided.second_lt]
        split_ifs <;> simp [Event.renumber, Packet.renumber]
      · have hOther :
            (first.renumber b).seq ≠
              (r.renumber b).window.1 :=
          fun hSame =>
            hExpected ((shift b).injective hSame)
        rw [if_neg hExpected, if_neg hOther]
        rfl

/- A round stays on the side. -/
theorem oneSided_slideStep
    {b : Nat}
    {r next : Receiver}
    (hSided : OneSided b r)
    (hStep : r.slideStep = some next) :
    OneSided b next ∧
      SameSide b next.window.1 r.window.1 := by
  rcases slideStep_eq_some hStep with
    ⟨first, hFirst, hExpected, rfl⟩
  have hMember := (OrderedSet.first?_eq_some hFirst).1
  have hSucc := hSided.succ_lt first hMember
  have hFollowing := hSided.following first hMember
  rw [hExpected] at hSucc hFollowing
  have hNext :
      update r.window.1 = r.window.1 + 1 :=
    update_of_lt hSucc
  have hOld :
      ∀ p ∈ r.recvBuffer.eraseFirst, p ∈ r.recvBuffer :=
    fun p hRest =>
      ((OrderedSet.mem_eraseFirst_iff hFirst).mp hRest).1
  dsimp only
  rw [hNext]
  refine ⟨⟨hSucc, update_lt _, ?_, ?_, ?_⟩, hFollowing⟩
  · exact fun p hRest => hSided.succ_lt p (hOld p hRest)
  · exact fun p hRest =>
      (hSided.buffered p (hOld p hRest)).trans
        hFollowing.symm
  · exact fun p hRest =>
      (hSided.following p (hOld p hRest)).trans
        hFollowing.symm

theorem slide_renumber
    {b : Nat}
    (hBase : b < 2 ^ 32)
    (rounds : Nat)
    {r : Receiver}
    (hSided : OneSided b r) :
    (r.renumber b).slide rounds =
        (r.slide rounds).renumber b ∧
      OneSided b (r.slide rounds) ∧
      SameSide b (r.slide rounds).window.1 r.window.1 := by
  induction rounds generalizing r with
  | zero => exact ⟨rfl, hSided, Iff.rfl⟩
  | succ rounds ih =>
      unfold slide
      rw [slideStep_renumber hBase hSided]
      cases hNext : r.slideStep with
      | none => exact ⟨rfl, hSided, Iff.rfl⟩
      | some next =>
          have hAfter := oneSided_slideStep hSided hNext
          have hRest := ih hAfter.1
          exact ⟨hRest.1, hRest.2.1,
            hRest.2.2.trans hAfter.2⟩

/-
  Buffering a packet on the side of the window, and sliding.
-/
theorem insertAndSlide_renumber
    {b : Nat}
    {r : Receiver}
    {packet : Packet}
    (hBase : b < 2 ^ 32)
    (hSided : OneSided b r)
    (hSucc : packet.seq + 1 < 2 ^ 32)
    (hSide : SameSide b packet.seq r.window.1)
    (hFollowing : SameSide b (packet.seq + 1) r.window.1) :
    (r.renumber b).insertAndSlide (packet.renumber b) =
        (r.insertAndSlide packet).renumber b ∧
      OneSided b (r.insertAndSlide packet) ∧
      SameSide b packet.seq
        (r.insertAndSlide packet).window.1 := by
  have hKeys := Packet.seq_renumber_eq b
  have hInserted :
      OneSided b
        { r with
          recvBuffer := r.recvBuffer.insert packet } := by
    refine ⟨hSided.first_lt, hSided.second_lt, ?_, ?_, ?_⟩
    · intro p hMember
      rcases OrderedSet.mem_insert_iff.mp hMember with
        hOld | ⟨rfl, _⟩
      · exact hSided.succ_lt p hOld
      · exact hSucc
    · intro p hMember
      rcases OrderedSet.mem_insert_iff.mp hMember with
        hOld | ⟨rfl, _⟩
      · exact hSided.buffered p hOld
      · exact hSide
    · intro p hMember
      rcases OrderedSet.mem_insert_iff.mp hMember with
        hOld | ⟨rfl, _⟩
      · exact hSided.following p hOld
      · exact hFollowing
  have hSlid :=
    slide_renumber hBase (r.recvBuffer.insert packet).size
      hInserted
  have hBuffer :
      (r.recvBuffer.image (Packet.renumber b)).insert
          (packet.renumber b) =
        (r.recvBuffer.insert packet).image
          (Packet.renumber b) :=
    (OrderedSet.image_insert hKeys r.recvBuffer packet).symm
  have hSize :=
    OrderedSet.size_image (fun p q => (hKeys p q).mp)
      (r.recvBuffer.insert packet)
  refine ⟨?_, hSlid.2.1, hSide.trans hSlid.2.2.symm⟩
  unfold insertAndSlide
  dsimp only
  change
    Receiver.slide
        ((r.recvBuffer.image (Packet.renumber b)).insert
          (packet.renumber b)).size
        { r.renumber b with
          recvBuffer :=
            (r.recvBuffer.image (Packet.renumber b)).insert
              (packet.renumber b) } = _
  rw [hBuffer, hSize]
  exact hSlid.1

end Receiver

end Nkurdt

------------------------------------------------------------
-- One Iteration
------------------------------------------------------------

namespace Nkurdt

open SequenceNumber

namespace Receiver

theorem switchState_renumber
    {b : Nat}
    {packet : Packet}
    (r : Receiver)
    (addr : SocketAddr)
    (hSeq : packet.seq < 2 ^ 32) :
    (r.renumber b).switchState (packet.renumber b) addr =
      ((r.switchState packet addr).1.renumber b,
        (r.switchState packet addr).2) := by
  have hKind : (packet.renumber b).kind = packet.kind := rfl
  have hState : (r.renumber b).state = r.state := rfl
  unfold switchState
  rw [hKind, hState]
  cases r.state with
  | idle =>
      dsimp only
      split_ifs
      · unfold renumber Packet.renumber
        dsimp only
        rw [add_shift hSeq]
      · rfl
  | connected =>
      dsimp only
      split_ifs <;> rfl
  | receiving =>
      dsimp only
      split_ifs <;> rfl

/- The switch moves the window for a connection only. -/
theorem switchState_window
    (r : Receiver)
    (packet : Packet)
    (addr : SocketAddr) :
    (r.switchState packet addr).1.recvBuffer =
        r.recvBuffer ∧
      ((r.switchState packet addr).1.window = r.window ∧
          ¬ (r.state = .idle ∧ packet.kind = .connReq) ∨
        r.state = .idle ∧ packet.kind = .connReq ∧
          (r.switchState packet addr).1.window =
            (packet.seq,
              add packet.seq (r.maxWindowSize % 2 ^ 32))) := by
  unfold switchState
  cases hState : r.state
  all_goals dsimp only
  all_goals split_ifs
  all_goals simp_all

/- The window behind the switch is on the packet's side. -/
theorem oneSided_switchState
    {b : Nat}
    {r : Receiver}
    {packet : Packet}
    (addr : SocketAddr)
    (hSided : OneSided b r)
    (hSeq : packet.seq < 2 ^ 32)
    (hKind : getAckKind packet.kind ≠ none)
    (hAccepted : r.decision packet = .accepted)
    (hCompares : ComparesOnOneSide b r packet) :
    let switched := (r.switchState packet addr).1
    OneSided b switched ∧
      packet.seq + 1 < 2 ^ 32 ∧
      SameSide b packet.seq switched.window.1 ∧
      SameSide b (packet.seq + 1) switched.window.1 := by
  have hFacts :
      packet.seq + 1 < 2 ^ 32 ∧
        SameSide b (packet.seq + 1) packet.seq ∧
        (SameSide b packet.seq r.window.1 ∨
          (r.state = .idle ∧ packet.kind = .connReq) ∧
            r.recvBuffer.elems = []) := by
    have hSides := hCompares hKind
    by_cases hIdle : r.state = .idle
    · rw [if_pos hIdle] at hSides
      refine ⟨hSides.2.1, hSides.2.2, hSides.1.imp_right ?_⟩
      exact fun hConnects => ⟨⟨hIdle, hConnects.1⟩,
        hConnects.2⟩
    · rw [if_neg hIdle] at hSides
      rw [decision_of_request hKind hIdle] at hAccepted
      split_ifs at hAccepted with hLow hHigh
      obtain ⟨hSide, hWindow⟩ := hSides
      have hEnd := hWindow.resolve_left hLow
      have hSecond := hSided.second_lt
      refine ⟨by omega, ?_, Or.inl hSide⟩
      unfold SameSide at hSide hEnd ⊢
      omega
  obtain ⟨hSucc, hFollowing, hSide⟩ := hFacts
  obtain ⟨hBuffer, hWindow⟩ :=
    switchState_window r packet addr
  dsimp only
  rcases hWindow with
    ⟨hWindow, hOther⟩ | ⟨_, _, hWindow⟩
  · have hNear :=
      hSide.resolve_right (fun hNew => hOther hNew.1)
    rw [hWindow]
    refine ⟨?_, hSucc, hNear, hFollowing.trans hNear⟩
    constructor
    · rw [hWindow]
      exact hSided.first_lt
    · rw [hWindow]
      exact hSided.second_lt
    · rw [hBuffer]
      exact hSided.succ_lt
    · rw [hBuffer, hWindow]
      exact hSided.buffered
    · rw [hBuffer, hWindow]
      exact hSided.following
  · rw [hWindow]
    refine ⟨?_, hSucc, Iff.rfl, hFollowing⟩
    have hNear :
        ∀ p ∈ r.recvBuffer,
          SameSide b r.window.1 packet.seq := by
      intro p hMember
      rcases hSide with hNear | ⟨_, hEmpty⟩
      · exact hNear.symm
      · rw [OrderedSet.mem_def, hEmpty] at hMember
        cases hMember
    constructor
    · rw [hWindow]
      exact hSeq
    · rw [hWindow]
      exact Nat.mod_lt _ (Nat.two_pow_pos 32)
    · rw [hBuffer]
      exact hSided.succ_lt
    · rw [hBuffer, hWindow]
      exact fun p hMember =>
        (hSided.buffered p hMember).trans (hNear p hMember)
    · rw [hBuffer, hWindow]
      exact fun p hMember =>
        (hSided.following p hMember).trans
          (hNear p hMember)

theorem replyEvents_renumber
    (b : Nat)
    (r : Receiver)
    (ackKind : PacketKind)
    (seq : Nat) :
    (r.renumber b).replyEvents ackKind (shift b seq) =
      (r.replyEvents ackKind seq).map
        (Event.renumber b) := by
  have hPeer : (r.renumber b).peerAddr = r.peerAddr := rfl
  unfold replyEvents
  rw [hPeer]
  cases r.peerAddr <;> rfl

theorem reply_renumber
    (b : Nat)
    (r : Receiver)
    (ackKind : PacketKind)
    (seq : Nat) :
    (r.renumber b).reply ackKind (shift b seq) =
      (r.reply ackKind seq).renumber b := by
  rw [reply_eq, reply_eq, replyEvents_renumber]
  unfold renumber
  simp only [List.map_append]

theorem ackNumber_renumber
    (b : Nat)
    (r : Receiver)
    (packet : Packet) :
    (r.renumber b).ackNumber (packet.renumber b) =
      shift b (r.ackNumber packet) := by
  have hMode :
      (r.renumber b).selectiveRepeat = r.selectiveRepeat :=
    rfl
  unfold ackNumber
  rw [hMode]
  split_ifs <;> rfl

theorem accept_renumber
    {b : Nat}
    {r : Receiver}
    {packet : Packet}
    (addr : SocketAddr)
    (ackKind : PacketKind)
    (hBase : b < 2 ^ 32)
    (hSided : OneSided b r)
    (hSeq : packet.seq < 2 ^ 32)
    (hKind : getAckKind packet.kind ≠ none)
    (hAccepted : r.decision packet = .accepted)
    (hCompares : ComparesOnOneSide b r packet) :
    (r.renumber b).accept (packet.renumber b) ackKind addr =
        (r.accept packet ackKind addr).renumber b ∧
      OneSided b (r.accept packet ackKind addr) := by
  obtain ⟨hSwitched, hSucc, hSide, hFollowing⟩ :=
    oneSided_switchState addr hSided hSeq hKind hAccepted
      hCompares
  obtain ⟨hSlid, hAfter, hNear⟩ :=
    insertAndSlide_renumber hBase hSwitched hSucc hSide
      hFollowing
  have hOrder := shift_lt_shift hBase hNear
  rw [accept_eq, accept_eq, switchState_renumber r addr hSeq]
  dsimp only
  rw [hSlid]
  generalize
    (r.switchState packet addr).1.insertAndSlide packet =
      slid at *
  have hEvents :
      (slid.renumber b).acceptEvents (packet.renumber b)
          ackKind (r.switchState packet addr).2.2 =
        (slid.acceptEvents packet ackKind
          (r.switchState packet addr).2.2).map
          (Event.renumber b) := by
    unfold acceptEvents
    rw [ackNumber_renumber, replyEvents_renumber]
    simp only [List.map_append, List.append_assoc]
    change
      _ ++ ((if _ ∧ shift b packet.seq <
            shift b slid.window.1 then _ else _) ++
          (if slid.state = .idle ∧ shift b packet.seq <
            shift b slid.window.1 then _ else _)) = _
    simp only [hOrder]
    split_ifs <;> rfl
  rw [hEvents]
  refine ⟨?_, ⟨hAfter.first_lt, hAfter.second_lt,
    hAfter.succ_lt, hAfter.buffered, hAfter.following⟩⟩
  unfold renumber
  simp only [List.map_append]
  congr 1
  change
    (if slid.state = .idle ∧ shift b packet.seq <
      shift b slid.window.1 then _ else _) = _
  simp only [hOrder]

end Receiver

end Nkurdt

------------------------------------------------------------
-- Runs of the Loop
------------------------------------------------------------

namespace Nkurdt

open SequenceNumber

namespace Receiver

/- Comparisons on one side give the same decision. -/
theorem decision_renumber
    {b : Nat}
    {r : Receiver}
    {packet : Packet}
    (hBase : b < 2 ^ 32)
    (hSided : OneSided b r)
    (hSeq : packet.seq < 2 ^ 32)
    (hCompares : ComparesOnOneSide b r packet) :
    (r.renumber b).decision (packet.renumber b) =
      r.decision packet := by
  have hName : (packet.renumber b).kind = packet.kind := rfl
  have hSame : (r.renumber b).state = r.state := rfl
  by_cases hKind : getAckKind packet.kind = none
  · unfold decision Packet.isAck
    rw [hName, if_pos hKind, if_pos hKind]
  · by_cases hIdle : r.state = .idle
    · unfold decision Packet.isAck
      rw [hName, hSame, hIdle]
      simp
    · exact (decision_renumber_iff hBase hSided hSeq hKind
        hIdle).mpr hCompares

/-
  An iteration on a packet whose comparisons are on one side
  does the same to the shifted receiver.
-/
theorem onPacket_renumber
    {b : Nat}
    {r : Receiver}
    {packet : Packet}
    (addr : SocketAddr)
    (hBase : b < 2 ^ 32)
    (hSided : OneSided b r)
    (hSeq : packet.seq < 2 ^ 32)
    (hCompares : ComparesOnOneSide b r packet) :
    (r.renumber b).onPacket (packet.renumber b) addr =
        (r.onPacket packet addr).renumber b ∧
      OneSided b (r.onPacket packet addr) := by
  have hName : (packet.renumber b).kind = packet.kind := rfl
  have hMode :
      (r.renumber b).selectiveRepeat = r.selectiveRepeat :=
    rfl
  have hReplied :
      ∀ ackKind seq, OneSided b (r.reply ackKind seq) := by
    intro ackKind seq
    rw [reply_eq]
    exact ⟨hSided.first_lt, hSided.second_lt,
      hSided.succ_lt, hSided.buffered, hSided.following⟩
  rw [onPacket_decision, onPacket_decision,
    decision_renumber hBase hSided hSeq hCompares, hName,
    hMode]
  have hSame :
      ∀ status, OneSided b { r with status := status } :=
    fun _ => ⟨hSided.first_lt, hSided.second_lt,
      hSided.succ_lt, hSided.buffered, hSided.following⟩
  cases hKind : getAckKind packet.kind with
  | none =>
      cases r.decision packet
      all_goals exact ⟨rfl, hSame _⟩
  | some ackKind =>
      cases hDecision : r.decision packet with
      | accepted =>
          exact accept_renumber addr ackKind hBase hSided
            hSeq (by simp [hKind]) hDecision hCompares
      | duplicate =>
          dsimp only
          rw [ackNumber_renumber, reply_renumber]
          exact ⟨rfl, hReplied _ _⟩
      | outOfWindow =>
          dsimp only
          split_ifs
          · exact ⟨rfl, hSided⟩
          · exact ⟨reply_renumber b r ackKind r.window.1,
              hReplied _ _⟩
      | ignored => exact ⟨rfl, hSided⟩
      | thrown => exact ⟨rfl, hSame _⟩

/- The packet that is taken is a packet of the wire. -/
theorem seq_lt_of_taken?
    {r : Receiver}
    {result : RecvResult}
    {packet : Packet}
    (hTaken : r.taken? result = some packet) :
    packet.seq < 2 ^ 32 := by
  cases result with
  | error value => cases hTaken
  | datagram bytes addr =>
      unfold taken? at hTaken
      dsimp only at hTaken
      split_ifs at hTaken
      have hDecoded :
          Packet.fromBytes bytes = some (some packet) :=
        Option.join_eq_some_iff.mp hTaken
      exact (Packet.layout_of_fromBytes hDecoded).1.seq_lt

theorem taken?_renumber
    (b : Nat)
    (r : Receiver)
    (result : RecvResult) :
    (r.renumber b).taken? (result.renumber b) =
      (r.taken? result).map (Packet.renumber b) := by
  cases result with
  | error value => rfl
  | datagram bytes addr =>
      have hStatus : (r.renumber b).status = r.status := rfl
      have hRunning : (r.renumber b).running = r.running :=
        rfl
      unfold taken? RecvResult.renumber
      dsimp only
      rw [hStatus, hRunning, Packet.fromBytes_renumberBytes]
      split_ifs
      · rcases Packet.fromBytes bytes with _ | _ | packet
        all_goals rfl
      · rfl

/- The comparisons of the iteration are on one side. -/
def StepsOnOneSide
    (b : Nat)
    (r : Receiver)
    (result : RecvResult) : Prop :=
  ∀ packet ∈ r.taken? result, ComparesOnOneSide b r packet

instance (b : Nat) (r : Receiver) (result : RecvResult) :
    Decidable (StepsOnOneSide b r result) :=
  inferInstanceAs
    (Decidable
      (∀ packet ∈ r.taken? result,
        ComparesOnOneSide b r packet))

theorem recvStep_renumber
    {b : Nat}
    {r : Receiver}
    {result : RecvResult}
    (hBase : b < 2 ^ 32)
    (hSided : OneSided b r)
    (hSteps : StepsOnOneSide b r result) :
    (r.renumber b).recvStep (result.renumber b) =
        (r.recvStep result).renumber b ∧
      OneSided b (r.recvStep result) := by
  have hStatus : (r.renumber b).status = r.status := rfl
  have hRunning : (r.renumber b).running = r.running := rfl
  unfold recvStep
  rw [hStatus, hRunning]
  by_cases hLooping : r.status = .looping ∧ r.running
  · rw [if_pos hLooping, if_pos hLooping]
    cases result with
    | error value =>
        dsimp only [RecvResult.renumber]
        split_ifs
        · unfold renumber finish emit
          simp only [List.map_append]
          exact ⟨rfl, hSided.first_lt, hSided.second_lt,
            hSided.succ_lt, hSided.buffered,
            hSided.following⟩
        · exact ⟨rfl, hSided⟩
    | datagram bytes addr =>
        dsimp only [RecvResult.renumber]
        rw [Packet.fromBytes_renumberBytes]
        match hDecoded : Packet.fromBytes bytes with
        | none =>
            exact ⟨rfl, hSided.first_lt, hSided.second_lt,
              hSided.succ_lt, hSided.buffered,
              hSided.following⟩
        | some none => exact ⟨rfl, hSided⟩
        | some (some packet) =>
            have hTaken :
                r.taken? (.datagram bytes addr) =
                  some packet := by
              unfold taken?
              dsimp only
              rw [if_pos hLooping, hDecoded]
              rfl
            exact onPacket_renumber addr hBase hSided
              (seq_lt_of_taken? hTaken)
              (hSteps packet hTaken)
  · rw [if_neg hLooping, if_neg hLooping]
    exact ⟨rfl, hSided⟩

/- The comparisons of every iteration are on one side. -/
def LoopsOnOneSide
    (b : Nat) : Receiver → List RecvResult → Prop
| _, [] => True
| r, result :: results =>
    StepsOnOneSide b r result ∧
      LoopsOnOneSide b (r.recvStep result) results

instance decidableLoopsOnOneSide (b : Nat) :
    ∀ r results, Decidable (LoopsOnOneSide b r results)
| _, [] => inferInstanceAs (Decidable True)
| r, result :: results =>
    have := decidableLoopsOnOneSide b (r.recvStep result)
      results
    inferInstanceAs
      (Decidable
        (StepsOnOneSide b r result ∧
          LoopsOnOneSide b (r.recvStep result) results))

/-
  The shifted receiver makes the same decisions and comes to
  the shifted state.
-/
theorem recv_renumber
    {b : Nat}
    {r : Receiver}
    {results : List RecvResult}
    (hBase : b < 2 ^ 32)
    (hSided : OneSided b r)
    (hLoops : LoopsOnOneSide b r results) :
    (r.renumber b).decisions
          (results.map (RecvResult.renumber b)) =
        r.decisions results ∧
      (r.renumber b).recv
          (results.map (RecvResult.renumber b)) =
        (r.recv results).renumber b ∧
      OneSided b (r.recv results) := by
  induction results generalizing r with
  | nil => exact ⟨rfl, rfl, hSided⟩
  | cons result results ih =>
      obtain ⟨hSteps, hRest⟩ := hLoops
      obtain ⟨hStep, hAfter⟩ :=
        recvStep_renumber hBase hSided hSteps
      obtain ⟨hDecisions, hStates, hLast⟩ := ih hAfter hRest
      have hFirst :
          ((r.renumber b).taken? (result.renumber b)).map
              (r.renumber b).decision =
            (r.taken? result).map r.decision := by
        rw [taken?_renumber]
        cases hTaken : r.taken? result with
        | none => rfl
        | some packet =>
            exact congrArg some
              (decision_renumber hBase hSided
                (seq_lt_of_taken? hTaken)
                (hSteps packet hTaken))
      refine ⟨?_, ?_, hLast⟩
      · unfold decisions
        rw [List.map_cons]
        dsimp only
        rw [hFirst, hStep, hDecisions]
      · unfold recv at hStates ⊢
        rw [List.map_cons, List.foldl_cons, List.foldl_cons,
          hStep]
        exact hStates

end Receiver

end Nkurdt
