import Nkurdt.Sender.Acks
import Nkurdt.Sender.Deadlock

/-
  What one received packet does to the window.

  `recv_handler` falls through to the window for every packet
  it can decode. The section in which it deals with one packet
  is followed from the insertion of the number to the release
  of the mutex, with any steps of the other threads between.

  Main declarations:
    * `Sender.AcknowledgesSent`
    * `Sender.MovesInOrder`
    * `Sender.TakesSafely`
    * `Sender.Handled`
    * `Sender.InOrder`
    * `Sender.movesInOrder_iff`
-/

------------------------------------------------------------
-- Moves of the Window
------------------------------------------------------------

namespace Nkurdt

namespace Sender

open Runs

/-
  The packet is an acknowledgement of something sent: in
  go-back-n of everything below its number, in selective
  repeat of the number itself.
-/
def AcknowledgesSent
    (s : Sender)
    (packet : Packet) : Prop :=
  packet.kind.isAck = true ∧
    if s.selectiveRepeat then
      s.window.lowerBound ≤ packet.seq ∧
        packet.seq < s.window.upperBound
    else
      s.window.lowerBound < packet.seq ∧
        packet.seq ≤ s.window.upperBound

instance (s : Sender) (packet : Packet) :
    Decidable (s.AcknowledgesSent packet) :=
  inferInstanceAs (Decidable (_ ∧ ite _ _ _))

/-
  From `s`, where the packet is taken, to `t` the window has
  moved as an acknowledgement moves it, and the difference
  of its bounds has not underflowed.
-/
structure MovesInOrder
    (s : Sender)
    (packet : Packet)
    (t : Sender) : Prop where
  moved :
    t.window.lowerBound = s.window.lowerBound ∨
      s.AcknowledgesSent packet
  lower_le : s.window.lowerBound ≤ t.window.lowerBound
  bounded : t.window.lowerBound ≤ t.window.upperBound
  difference :
    t.window.upperBound < 2 ^ 32 →
      SequenceNumber.sub t.window.upperBound
          t.window.lowerBound =
        t.window.upperBound - t.window.lowerBound

/-
  The packet can be taken: if it moves the window it is an
  acknowledgement, and the move stops at the upper bound. In
  selective repeat it stops at the first number above the
  lower bound that is not in the set of acknowledged ones.
-/
def TakesSafely (s : Sender) (packet : Packet) : Prop :=
  if s.selectiveRepeat then
    packet.seq = s.window.lowerBound →
      packet.kind.isAck = true ∧
        ∃ n, s.window.lowerBound < n ∧
          n ≤ s.window.upperBound ∧ n ∉ s.ackedSeqSet
  else
    s.window.lowerBound < packet.seq →
      packet.kind.isAck = true ∧
        packet.seq ≤ s.window.upperBound

/-
  The rest of the section of `recv_handler` that deals with
  the packet, while the upper bound does not wrap around.
-/
def Handles
    (s : Sender)
    (_action : Action)
    (s' : Sender) : Prop :=
  s'.recvPc.InAcked ∧
    s.window.upperBound ≤ s'.window.upperBound

instance (pc : RecvPc) : Decidable pc.InAcked := by
  unfold RecvPc.InAcked
  rcases pc with ⟨⟩ <;> infer_instance

instance (s : Sender) (action : Action) (s' : Sender) :
    Decidable (s.Handles action s') :=
  inferInstanceAs (Decidable (_ ∧ _))

end Sender

end Nkurdt

------------------------------------------------------------
-- The Section of One Packet
------------------------------------------------------------

namespace Nkurdt

namespace Sender

/- A number at which the slide loop has to stop. -/
structure StopsAt
    (s : Sender)
    (packet : Packet)
    (stop : Nat) : Prop where
  lower_le : s.window.lowerBound ≤ stop
  lt : stop < 2 ^ 32
  number : stop ≠ packet.seq
  missing : stop ∉ s.ackedSeqSet

/-
  How far the slide loop has come: what it has passed was in
  the set with the new number, what is ahead still is, and
  it has not passed the missing number `stop`.
-/
structure Slid
    (s : Sender)
    (packet : Packet)
    (stop : Nat)
    (t : Sender) : Prop where
  lower_le : s.window.lowerBound ≤ t.window.lowerBound
  le_stop : t.window.lowerBound ≤ stop
  ahead :
    ∀ n, t.window.lowerBound ≤ n →
      (n ∈ t.ackedSeqSet ↔
        n = packet.seq ∨ n ∈ s.ackedSeqSet)

/-
  Where the section of the packet that was taken in `s` has
  come to: before the insertion, in front of the comparison,
  behind it, or in the slide loop and behind it.
-/
inductive Progress
    (s : Sender)
    (packet : Packet)
    (stop : Nat)
    (t : Sender) : Prop where
| taken :
    t.recvPc = .insertAck packet →
    t.window.lowerBound = s.window.lowerBound →
    t.ackedSeqSet = s.ackedSeqSet →
    Progress s packet stop t
| comparing :
    s.selectiveRepeat = false →
    t.recvPc = .compare packet ∨ t.recvPc = .less packet →
    t.window.lowerBound = s.window.lowerBound →
    Progress s packet stop t
| setting :
    s.selectiveRepeat = false →
    t.recvPc = .setLower packet →
    s.window.lowerBound < packet.seq →
    t.window.lowerBound = s.window.lowerBound →
    Progress s packet stop t
| settled :
    s.selectiveRepeat = false →
    t.recvPc.InGoBackN ∨ t.recvPc = .unlockAcked →
    t.recvPc.sliding? = none →
    t.window.lowerBound =
      max s.window.lowerBound packet.seq →
    Progress s packet stop t
| sliding :
    s.selectiveRepeat = true →
    t.recvPc = .slide →
    Slid s packet stop t →
    Progress s packet stop t
| slid :
    s.selectiveRepeat = true →
    t.recvPc = .unlockAcked →
    Slid s packet stop t →
    t.window.lowerBound ∉ t.ackedSeqSet →
    Progress s packet stop t

/- The packet has been inserted. -/
theorem progress_insertAck
    {s t t' : Sender}
    {packet : Packet}
    {stop : Nat}
    (hMode : t.selectiveRepeat = s.selectiveRepeat)
    (hPc : t.recvPc = .insertAck packet)
    (hLower : t.window.lowerBound = s.window.lowerBound)
    (hAcked : t.ackedSeqSet = s.ackedSeqSet)
    (hStops :
      s.selectiveRepeat = true → StopsAt s packet stop)
    (hStep : t.recvHandlerStep = some t') :
    Progress s packet stop t' := by
  unfold recvHandlerStep at hStep
  simp only [hPc, Option.some.injEq] at hStep
  subst hStep
  cases hRepeat : s.selectiveRepeat with
  | true =>
      rw [hRepeat] at hMode
      refine .sliding hRepeat (if_pos hMode) ⟨?_, ?_, ?_⟩
      · exact hLower.ge
      · exact hLower.trans_le (hStops hRepeat).lower_le
      · intro n _
        dsimp only
        rw [hAcked]
        exact Finset.mem_insert
  | false =>
      rw [hRepeat] at hMode
      have hNext :
          (if t.selectiveRepeat then RecvPc.slide
            else .compare packet) = .compare packet := by
        rw [hMode]
        rfl
      exact .comparing hRepeat (Or.inl hNext) hLower

/- The comparison with the lower bound, in go-back-n. -/
theorem progress_comparing
    {s t t' : Sender}
    {packet : Packet}
    {stop : Nat}
    (hMode : s.selectiveRepeat = false)
    (hPc :
      t.recvPc = .compare packet ∨ t.recvPc = .less packet)
    (hLower : t.window.lowerBound = s.window.lowerBound)
    (hStep : t.recvHandlerStep = some t') :
    Progress s packet stop t' := by
  unfold recvHandlerStep at hStep
  rcases hPc with hPc | hPc
  · simp only [hPc, whenFree_eq_some] at hStep
    rcases hStep with ⟨_, rfl⟩
    split_ifs with hSame
    · have hMax :
          t.window.lowerBound =
            max s.window.lowerBound packet.seq := by
        omega
      unfold duplicateStep
      split_ifs
      all_goals
        exact .settled hMode (Or.inl trivial) rfl hMax
    · exact .comparing hMode (Or.inr rfl) hLower
  · simp only [hPc, whenFree_eq_some] at hStep
    rcases hStep with ⟨_, rfl⟩
    by_cases hLess : t.window.lowerBound < packet.seq
    · refine .setting hMode (if_pos hLess) ?_ hLower
      rw [← hLower]
      exact hLess
    · have hNext :
          (if t.window.lowerBound < packet.seq then
            RecvPc.setLower packet
          else
            .eraseAck packet) = .eraseAck packet :=
        if_neg hLess
      refine .settled hMode (Or.inl ?_) ?_ ?_
      · dsimp only
        rw [hNext]
        trivial
      · dsimp only
        rw [hNext]
        rfl
      · dsimp only
        omega

/- Behind the comparison the lower bound stays. -/
theorem progress_settled
    {s t t' : Sender}
    {packet : Packet}
    {stop : Nat}
    (hMode : s.selectiveRepeat = false)
    (hPc :
      t.recvPc.InGoBackN ∨ t.recvPc = .unlockAcked)
    (hSettled : t.recvPc.sliding? = none)
    (hLower :
      t.window.lowerBound =
        max s.window.lowerBound packet.seq)
    (hStep : t.recvHandlerStep = some t')
    (hInside : t'.recvPc.InAcked) :
    Progress s packet stop t' := by
  unfold recvHandlerStep at hStep
  rcases hPc with hBranch | hPc
  · cases hPc : t.recvPc
    all_goals rw [hPc] at hBranch hSettled
    all_goals try exact hBranch.elim
    all_goals try cases hSettled
    all_goals
      simp only [hPc, whenFree_eq_some,
        Option.some.injEq] at hStep
    all_goals first
      | subst hStep
      | rcases hStep with ⟨_, rfl⟩
    all_goals first
      | exact .settled hMode (Or.inr rfl) rfl hLower
      | exact .settled hMode (Or.inl trivial) rfl hLower
  · simp only [hPc, Option.some.injEq] at hStep
    subst hStep
    exact hInside.elim

/- A round of the slide loop, or its end. -/
theorem progress_sliding
    {s t t' : Sender}
    {packet : Packet}
    {stop : Nat}
    (hMode : s.selectiveRepeat = true)
    (hPc : t.recvPc = .slide)
    (hSlid : Slid s packet stop t)
    (hStops : StopsAt s packet stop)
    (hStep : t.recvHandlerStep = some t') :
    Progress s packet stop t' := by
  unfold recvHandlerStep at hStep
  simp only [hPc, whenFree_eq_some] at hStep
  rcases hStep with ⟨_, rfl⟩
  split_ifs with hMember
  · have hPassed :=
      (hSlid.ahead t.window.lowerBound le_rfl).mp hMember
    have hBefore : t.window.lowerBound ≠ stop := by
      intro hSame
      rw [hSame] at hPassed
      exact hPassed.elim hStops.number hStops.missing
    have hLeStop := hSlid.le_stop
    have hBound := hStops.lt
    have hLowerLe := hSlid.lower_le
    have hNext :
        SequenceNumber.update t.window.lowerBound =
          t.window.lowerBound + 1 :=
      SequenceNumber.update_of_lt (by omega)
    refine .sliding hMode rfl ⟨?_, ?_, ?_⟩
    · rw [ConcurrentWindow.lowerBound_updateLowerBound]
      omega
    · rw [ConcurrentWindow.lowerBound_updateLowerBound]
      omega
    · intro n hLe
      rw [ConcurrentWindow.lowerBound_updateLowerBound]
        at hLe
      dsimp only
      rw [Finset.mem_erase]
      have hOther : n ≠ t.window.lowerBound := by
        omega
      have hAhead := hSlid.ahead n (by omega)
      exact ⟨fun hBoth => hAhead.mp hBoth.2,
        fun hNew => ⟨hOther, hAhead.mpr hNew⟩⟩
  · exact .slid hMode rfl
      ⟨hSlid.lower_le, hSlid.le_stop, hSlid.ahead⟩ hMember

/- A step of `recv_handler` in the section of the packet. -/
theorem progress_recvHandlerStep
    {s t t' : Sender}
    {packet : Packet}
    {stop : Nat}
    (hStops :
      s.selectiveRepeat = true → StopsAt s packet stop)
    (hMode : t.selectiveRepeat = s.selectiveRepeat)
    (hProgress : Progress s packet stop t)
    (hStep : t.recvHandlerStep = some t')
    (hInside : t'.recvPc.InAcked) :
    Progress s packet stop t' := by
  cases hProgress with
  | taken hPc hLower hAcked =>
      exact progress_insertAck hMode hPc hLower hAcked
        hStops hStep
  | comparing hGoBackN hPc hLower =>
      exact progress_comparing hGoBackN hPc hLower hStep
  | setting hGoBackN hPc hLess _ =>
      unfold recvHandlerStep at hStep
      simp only [hPc, whenFree_eq_some] at hStep
      rcases hStep with ⟨_, rfl⟩
      refine .settled hGoBackN (Or.inl trivial) rfl ?_
      rw [ConcurrentWindow.lowerBound_setLowerBound]
      omega
  | settled hGoBackN hPc hSettled hLower =>
      exact progress_settled hGoBackN hPc hSettled hLower
        hStep hInside
  | sliding hRepeat hPc hSlid =>
      exact progress_sliding hRepeat hPc hSlid
        (hStops hRepeat) hStep
  | slid _ hPc _ _ =>
      unfold recvHandlerStep at hStep
      simp only [hPc, Option.some.injEq] at hStep
      subst hStep
      exact hInside.elim

/- The steps of the others leave the section where it is. -/
theorem Progress.congr
    {s t t' : Sender}
    {packet : Packet}
    {stop : Nat}
    (hProgress : Progress s packet stop t)
    (hPc : t'.recvPc = t.recvPc)
    (hLower : t'.window.lowerBound = t.window.lowerBound)
    (hAcked : t'.ackedSeqSet = t.ackedSeqSet) :
    Progress s packet stop t' := by
  have hSame :
      Slid s packet stop t → Slid s packet stop t' := by
    intro hSlid
    refine ⟨?_, ?_, ?_⟩
    · rw [hLower]
      exact hSlid.lower_le
    · rw [hLower]
      exact hSlid.le_stop
    · rw [hLower, hAcked]
      exact hSlid.ahead
  cases hProgress with
  | taken hTaken hOld hSet =>
      exact .taken (hPc.trans hTaken) (hLower.trans hOld)
        (hAcked.trans hSet)
  | comparing hMode hCompare hOld =>
      exact .comparing hMode (by rw [hPc]; exact hCompare)
        (hLower.trans hOld)
  | setting hMode hSet hLess hOld =>
      exact .setting hMode (hPc.trans hSet) hLess
        (hLower.trans hOld)
  | settled hMode hBranch hSettled hMax =>
      exact .settled hMode (by rw [hPc]; exact hBranch)
        (by rw [hPc]; exact hSettled) (hLower.trans hMax)
  | sliding hMode hSlide hSlid =>
      exact .sliding hMode (hPc.trans hSlide) (hSame hSlid)
  | slid hMode hUnlock hSlid hOut =>
      refine .slid hMode (hPc.trans hUnlock) (hSame hSlid) ?_
      rw [hLower, hAcked]
      exact hOut

/- The invariant of the section. -/
structure Handled
    (s : Sender)
    (packet : Packet)
    (stop : Nat)
    (t : Sender) : Prop where
  mode : t.selectiveRepeat = s.selectiveRepeat
  upper : s.window.upperBound ≤ t.window.upperBound
  progress : Progress s packet stop t

theorem handled_step
    {s t t' : Sender}
    {packet : Packet}
    {stop : Nat}
    {action : Action}
    (hStops :
      s.selectiveRepeat = true → StopsAt s packet stop)
    (hHandled : Handled s packet stop t)
    (hStep : t.step action = some t')
    (hHandles : t.Handles action t') :
    Handled s packet stop t' := by
  have hUpper := hHandled.upper.trans hHandles.2
  by_cases hRecv : action = .thread .recvHandler
  · subst hRecv
    have hKeeps := recvHandlerStep_keeps hStep
    exact ⟨hKeeps.selectiveRepeat.trans hHandled.mode,
      hUpper,
      progress_recvHandlerStep hStops hHandled.mode
        hHandled.progress hStep hHandles.1⟩
  · have hKeeps := step_keeps hStep hRecv
    refine ⟨hKeeps.selectiveRepeat.trans hHandled.mode,
      hUpper, ?_⟩
    rcases hKeeps.recvPc with hSame | ⟨_, hLeaves⟩
    · exact hHandled.progress.congr hSame hKeeps.lowerBound
        hKeeps.ackedSeqSet
    · exfalso
      have hInside := hHandles.1
      rcases hLeaves with ⟨bytes, hDecode⟩ | hTest
      · rw [hDecode] at hInside
        exact hInside
      · rw [hTest] at hInside
        exact hInside

end Sender

end Nkurdt

------------------------------------------------------------
-- What the Section Does to the Window
------------------------------------------------------------

namespace Nkurdt

namespace Sender

open Runs

theorem handled_of_reaches
    {s t : Sender}
    {packet : Packet}
    {stop : Nat}
    (hPc : s.recvPc = .insertAck packet)
    (hStops :
      s.selectiveRepeat = true → StopsAt s packet stop)
    (hHandling : Reaches step Handles s t) :
    Handled s packet stop t :=
  hHandling.invariant
    ⟨rfl, le_rfl, .taken hPc rfl rfl⟩
    (fun _ _ _ hCurrent hNext hHandles =>
      handled_step hStops hCurrent hNext hHandles)

/- In go-back-n the bound stays or becomes the number. -/
theorem Progress.lower_of_goBackN
    {s t : Sender}
    {packet : Packet}
    {stop : Nat}
    (hProgress : Progress s packet stop t)
    (hMode : s.selectiveRepeat = false) :
    (t.window.lowerBound = s.window.lowerBound ∨
        t.window.lowerBound =
          max s.window.lowerBound packet.seq) ∧
      (t.recvPc = .unlockAcked →
        t.window.lowerBound =
          max s.window.lowerBound packet.seq) := by
  cases hProgress with
  | taken hPc hOld _ =>
      refine ⟨Or.inl hOld, ?_⟩
      rw [hPc]
      exact fun h => by cases h
  | comparing _ hPc hOld =>
      refine ⟨Or.inl hOld, ?_⟩
      rcases hPc with hPc | hPc
      · rw [hPc]
        exact fun h => by cases h
      · rw [hPc]
        exact fun h => by cases h
  | setting _ hPc _ hOld =>
      refine ⟨Or.inl hOld, ?_⟩
      rw [hPc]
      exact fun h => by cases h
  | settled _ _ _ hMax => exact ⟨Or.inr hMax, fun _ => hMax⟩
  | sliding hRepeat _ _ =>
      rw [hMode] at hRepeat
      cases hRepeat
  | slid hRepeat _ _ _ =>
      rw [hMode] at hRepeat
      cases hRepeat

/- In selective repeat it stops at the missing number. -/
theorem Progress.lower_of_selectiveRepeat
    {s t : Sender}
    {packet : Packet}
    {stop : Nat}
    (hProgress : Progress s packet stop t)
    (hMode : s.selectiveRepeat = true)
    (hStop : s.window.lowerBound ≤ stop) :
    s.window.lowerBound ≤ t.window.lowerBound ∧
      t.window.lowerBound ≤ stop ∧
      (t.recvPc = .unlockAcked →
        t.window.lowerBound ≠ packet.seq ∧
          t.window.lowerBound ∉ s.ackedSeqSet) := by
  cases hProgress with
  | taken hPc hOld _ =>
      refine ⟨hOld.ge, hOld.trans_le hStop, ?_⟩
      rw [hPc]
      exact fun h => by cases h
  | comparing hGoBackN _ _ =>
      rw [hMode] at hGoBackN
      cases hGoBackN
  | setting hGoBackN _ _ _ =>
      rw [hMode] at hGoBackN
      cases hGoBackN
  | settled hGoBackN _ _ _ =>
      rw [hMode] at hGoBackN
      cases hGoBackN
  | sliding _ hPc hSlid =>
      refine ⟨hSlid.lower_le, hSlid.le_stop, ?_⟩
      rw [hPc]
      exact fun h => by cases h
  | slid _ _ hSlid hOut =>
      refine ⟨hSlid.lower_le, hSlid.le_stop, fun _ => ?_⟩
      have hAhead := hSlid.ahead t.window.lowerBound le_rfl
      have hNeither := mt hAhead.mpr hOut
      push Not at hNeither
      exact hNeither

/- The upper bound is increased by one at a time. -/
theorem upperBound_step
    {s s' : Sender}
    {action : Action}
    (hStep : s.step action = some s') :
    s'.window.upperBound = s.window.upperBound ∨
      s'.window.upperBound =
        SequenceNumber.update s.window.upperBound := by
  cases action with
  | call call =>
      exact Or.inl (callStep_keeps hStep).upperBound
  | thread thread =>
      cases thread with
      | caller =>
          by_cases hUpdate :
              ∃ t seq, s.callerPc = .updateUpper t seq
          · rcases hUpdate with ⟨t, seq, hPc⟩
            right
            change s.callerStep = some s' at hStep
            unfold callerStep at hStep
            simp only [hPc, whenFree_eq_some] at hStep
            rcases hStep with ⟨_, rfl⟩
            rfl
          by_cases hEmplace :
              ∃ t seq, s.callerPc = .emplace t seq
          · rcases hEmplace with ⟨t, seq, hPc⟩
            left
            change s.callerStep = some s' at hStep
            unfold callerStep at hStep
            simp only [hPc, Option.some.injEq] at hStep
            rw [← hStep]
          · exact Or.inl (packets_callerStep hStep
              (fun t seq hPc => hUpdate ⟨t, seq, hPc⟩)
              (fun t seq hPc => hEmplace ⟨t, seq, hPc⟩)).1
      | sendHandler =>
          left
          rw [(sendHandlerStep_keeps hStep).window]
      | recvHandler =>
          exact Or.inl (recvHandlerStep_keeps hStep).upperBound
      | timeoutHandler =>
          left
          rw [(timeoutHandlerStep_keeps hStep).window]
  | timer =>
      rcases Option.map_eq_some_iff.mp hStep with
        ⟨timer, _, rfl⟩
      exact Or.inl rfl
  | recv result =>
      exact Or.inl (recvStep_keeps hStep).upperBound
  | tick duration =>
      rw [← Option.some.inj hStep]
      exact Or.inl rfl
  | wakeCaller =>
      rw [← Option.some.inj hStep]
      exact Or.inl rfl
  | wakeTimer =>
      rw [← Option.some.inj hStep]
      exact Or.inl rfl

/- The upper bound is a sequence number. -/
theorem upperBound_lt_of_reaches
    {config : SenderConfig}
    {s : Sender}
    (hReach :
      Reaches step (fun _ _ _ => True) (fresh config) s) :
    s.window.upperBound < 2 ^ 32 := by
  let Inv (current : Sender) : Prop :=
    current.window.upperBound < 2 ^ 32
  have hStart : Inv (fresh config) :=
    Nat.two_pow_pos 32
  have hStep :
      ∀ current action next,
        Inv current →
        step current action = some next →
        True →
        Inv next := by
    intro current action next hCurrent hStep _
    change next.window.upperBound < 2 ^ 32
    rcases upperBound_step hStep with hSame | hUpdate
    · rw [hSame]
      exact hCurrent
    · rw [hUpdate]
      exact Nat.mod_lt _ (Nat.two_pow_pos 32)
  have hInv : Inv s := hReach.invariant hStart hStep
  exact hInv

theorem windowReady_of_reaches
    {config : SenderConfig}
    {s : Sender}
    (hReach :
      Reaches step (fun _ _ _ => True) (fresh config) s) :
    WindowReady s :=
  hReach.invariant (windowReady_fresh config)
    (fun _ _ _ hCurrent hNext _ =>
      windowReady_step hCurrent hNext)

/- A packet off the lower bound does not slide the window. -/
theorem stopsAt_lower
    {s : Sender}
    {packet : Packet}
    (hReady : WindowReady s)
    (hPc : s.recvPc = .insertAck packet)
    (hMode : s.selectiveRepeat = true)
    (hBound : s.window.lowerBound < 2 ^ 32)
    (hOther : packet.seq ≠ s.window.lowerBound) :
    StopsAt s packet s.window.lowerBound := by
  refine ⟨le_rfl, hBound, hOther.symm, ?_⟩
  apply hReady.clear hMode
  rw [hPc]
  exact fun h => by cases h

/- A packet on it slides the window to a missing number. -/
theorem stopsAt_missing
    {s : Sender}
    {packet : Packet}
    {stop : Nat}
    (hNumber : packet.seq = s.window.lowerBound)
    (hAbove : s.window.lowerBound < stop)
    (hBound : stop < 2 ^ 32)
    (hMissing : stop ∉ s.ackedSeqSet) :
    StopsAt s packet stop :=
  ⟨hAbove.le, hBound, by omega, hMissing⟩

theorem movesInOrder_of_bounds
    {s t : Sender}
    {packet : Packet}
    (hMoved :
      t.window.lowerBound = s.window.lowerBound ∨
        s.AcknowledgesSent packet)
    (hLower : s.window.lowerBound ≤ t.window.lowerBound)
    (hBounded :
      t.window.lowerBound ≤ t.window.upperBound) :
    MovesInOrder s packet t :=
  ⟨hMoved, hLower, hBounded,
    fun hBound => SequenceNumber.sub_of_le hBounded hBound⟩

/- Taking a packet safely, in go-back-n. -/
theorem movesInOrder_of_goBackN
    {s t : Sender}
    {packet : Packet}
    {stop : Nat}
    (hMode : s.selectiveRepeat = false)
    (hBounds :
      s.window.lowerBound ≤ s.window.upperBound)
    (hHandled : Handled s packet stop t)
    (hSafely : s.TakesSafely packet) :
    MovesInOrder s packet t := by
  have hUpper := hHandled.upper
  unfold TakesSafely at hSafely
  rw [hMode] at hSafely
  simp only [Bool.false_eq_true, if_false] at hSafely
  have hLower :=
    (hHandled.progress.lower_of_goBackN hMode).1
  by_cases hLess : s.window.lowerBound < packet.seq
  · have hAck := hSafely hLess
    refine movesInOrder_of_bounds (Or.inr ⟨hAck.1, ?_⟩)
      (by omega) (by omega)
    rw [hMode]
    exact ⟨hLess, hAck.2⟩
  · exact movesInOrder_of_bounds (Or.inl (by omega))
      (by omega) (by omega)

/- And in selective repeat. -/
theorem movesInOrder_of_selectiveRepeat
    {s t : Sender}
    {packet : Packet}
    (hReady : WindowReady s)
    (hPc : s.recvPc = .insertAck packet)
    (hMode : s.selectiveRepeat = true)
    (hBounds :
      s.window.lowerBound ≤ s.window.upperBound)
    (hBound : s.window.upperBound < 2 ^ 32)
    (hHandling : Reaches step Handles s t)
    (hSafely : s.TakesSafely packet) :
    MovesInOrder s packet t := by
  unfold TakesSafely at hSafely
  rw [if_pos hMode] at hSafely
  by_cases hNumber : packet.seq = s.window.lowerBound
  · obtain ⟨hIsAck, stop, hAbove, hBelow, hMissing⟩ :=
      hSafely hNumber
    have hStops : StopsAt s packet stop :=
      stopsAt_missing hNumber hAbove (by omega) hMissing
    have hHandled :=
      handled_of_reaches hPc (fun _ => hStops) hHandling
    have hLower :=
      hHandled.progress.lower_of_selectiveRepeat hMode
        hStops.lower_le
    have hUpper := hHandled.upper
    refine movesInOrder_of_bounds (Or.inr ⟨hIsAck, ?_⟩)
      hLower.1 (by omega)
    rw [if_pos hMode]
    omega
  · have hStops :=
      stopsAt_lower hReady hPc hMode (by omega) hNumber
    have hHandled :=
      handled_of_reaches hPc (fun _ => hStops) hHandling
    have hLower :=
      hHandled.progress.lower_of_selectiveRepeat hMode
        hStops.lower_le
    have hUpper := hHandled.upper
    exact movesInOrder_of_bounds (Or.inl (by omega))
      hLower.1 (by omega)

/-
  A packet whose section leaves the window in order could be
  taken safely.
-/
theorem takesSafely_of_movesInOrder
    {s t : Sender}
    {packet : Packet}
    (hPc : s.recvPc = .insertAck packet)
    (hHandling : Reaches step Handles s t)
    (hEnd : t.recvPc = .unlockAcked)
    (hUpper :
      t.window.upperBound = s.window.upperBound)
    (hRoom :
      ∃ n, s.window.lowerBound < n ∧ n < 2 ^ 32 ∧
        n ∉ s.ackedSeqSet)
    (hMoves : MovesInOrder s packet t) :
    s.TakesSafely packet := by
  unfold TakesSafely
  cases hMode : s.selectiveRepeat with
  | true =>
      rw [if_pos rfl]
      intro hNumber
      obtain ⟨stop, hAbove, hStop, hMissing⟩ := hRoom
      have hStops : StopsAt s packet stop :=
        stopsAt_missing hNumber hAbove hStop hMissing
      have hHandled :=
        handled_of_reaches hPc (fun _ => hStops) hHandling
      have hLower :=
        hHandled.progress.lower_of_selectiveRepeat hMode
          hStops.lower_le
      have hOut := hLower.2.2 hEnd
      have hBounded := hMoves.bounded
      have hMoved :
          t.window.lowerBound ≠ s.window.lowerBound := by
        rw [← hNumber]
        exact hOut.1
      have hAck := hMoves.moved.resolve_left hMoved
      exact ⟨hAck.1, t.window.lowerBound, by omega,
        by omega, hOut.2⟩
  | false =>
      simp only [Bool.false_eq_true, if_false]
      intro hLess
      have hStops :
          s.selectiveRepeat = true → StopsAt s packet 0 := by
        intro hRepeat
        rw [hMode] at hRepeat
        cases hRepeat
      have hHandled :=
        handled_of_reaches hPc hStops hHandling
      have hLower :=
        (hHandled.progress.lower_of_goBackN hMode).2 hEnd
      have hMoved :
          t.window.lowerBound ≠ s.window.lowerBound := by
        omega
      have hAck := hMoves.moved.resolve_left hMoved
      have hSent := hAck.2
      rw [hMode] at hSent
      simp only [Bool.false_eq_true, if_false] at hSent
      exact ⟨hAck.1, hSent.2⟩

end Sender

end Nkurdt

------------------------------------------------------------
-- Runs
------------------------------------------------------------

namespace Nkurdt

namespace Sender

open Runs

/-
  The upper bound does not wrap around, and a packet is taken
  only where it can be taken safely.
-/
def StepsSafely
    (s : Sender)
    (action : Action)
    (s' : Sender) : Prop :=
  s.window.upperBound ≤ s'.window.upperBound ∧
    (action = .thread .recvHandler →
      ∀ packet, s.recvPc = .insertAck packet →
        s.TakesSafely packet)

/- A section that has begun safely. -/
structure BegunSafely
    (config : SenderConfig)
    (s t : Sender)
    (packet : Packet) : Prop where
  reached :
    Reaches step (fun _ _ _ => True) (fresh config) s
  taken : s.recvPc = .insertAck packet
  bounds : s.window.lowerBound ≤ s.window.upperBound
  safely : s.TakesSafely packet
  handling : Reaches step Handles s t

theorem BegunSafely.movesInOrder
    {config : SenderConfig}
    {s t : Sender}
    {packet : Packet}
    (hBegun : BegunSafely config s t packet) :
    MovesInOrder s packet t := by
  cases hMode : s.selectiveRepeat with
  | true =>
      exact movesInOrder_of_selectiveRepeat
        (windowReady_of_reaches hBegun.reached) hBegun.taken
        hMode hBegun.bounds
        (upperBound_lt_of_reaches hBegun.reached)
        hBegun.handling hBegun.safely
  | false =>
      have hStops :
          s.selectiveRepeat = true → StopsAt s packet 0 := by
        intro hRepeat
        rw [hMode] at hRepeat
        cases hRepeat
      exact movesInOrder_of_goBackN hMode hBegun.bounds
        (handled_of_reaches hBegun.taken hStops
          hBegun.handling) hBegun.safely

/-
  The invariant of a run whose steps are all safe: the bounds
  are in order, and inside a section nothing has happened
  since it began, or it has begun safely.
-/
structure InOrder
    (config : SenderConfig)
    (t : Sender) : Prop where
  reached :
    Reaches step (fun _ _ _ => True) (fresh config) t
  bounds : t.window.lowerBound ≤ t.window.upperBound
  inside :
    t.recvPc.InAcked →
      (∃ packet, t.recvPc = .insertAck packet) ∨
        ∃ s packet, BegunSafely config s t packet

/- A section begins with the packet, and ends with nothing. -/
theorem inAcked_recvHandlerStep
    {s s' : Sender}
    (hStep : s.recvHandlerStep = some s') :
    (¬ s.recvPc.InAcked → s'.recvPc.InAcked →
        ∃ packet, s'.recvPc = .insertAck packet) ∧
      (¬ s'.recvPc.InAcked → s'.window = s.window) := by
  cases recvHandlerStep_branch hStep with
  | @locksAcked packet =>
      exact ⟨fun _ _ => ⟨packet, rfl⟩, fun _ => rfl⟩
  | setsLower hPc | slides hPc =>
      rw [hPc]
      exact ⟨fun hOutside => absurd trivial hOutside,
        fun hOutside => absurd trivial hOutside⟩
  | _ =>
      refine ⟨?_, fun _ => rfl⟩
      simp_all [RecvPc.InAcked, notifyState]

theorem inOrder_step
    {config : SenderConfig}
    {s s' : Sender}
    {action : Action}
    (hOrder : InOrder config s)
    (hStep : s.step action = some s')
    (hSafely : s.StepsSafely action s') :
    InOrder config s' := by
  have hReached := hOrder.reached.tail hStep trivial
  have hBounds := hOrder.bounds
  have hUpper := hSafely.1
  by_cases hRecv : action = .thread .recvHandler
  · subst hRecv
    have hSection := inAcked_recvHandlerStep hStep
    by_cases hInside : s'.recvPc.InAcked
    · by_cases hBefore : s.recvPc.InAcked
      · have hBegun :
            ∃ origin packet,
              BegunSafely config origin s' packet := by
          rcases hOrder.inside hBefore with
            ⟨packet, hPc⟩ | ⟨origin, packet, hBegun⟩
          · exact ⟨s, packet, hOrder.reached, hPc, hBounds,
              hSafely.2 rfl packet hPc,
              Reaches.refl.tail hStep ⟨hInside, hUpper⟩⟩
          · exact ⟨origin, packet, hBegun.reached,
              hBegun.taken, hBegun.bounds, hBegun.safely,
              hBegun.handling.tail hStep
                ⟨hInside, hUpper⟩⟩
        refine ⟨hReached, ?_, fun _ => Or.inr hBegun⟩
        rcases hBegun with ⟨origin, packet, hBegun⟩
        exact hBegun.movesInOrder.bounded
      · refine ⟨hReached, ?_,
          fun _ => Or.inl (hSection.1 hBefore hInside)⟩
        rw [window_recvHandlerStep hBefore hStep]
        exact hBounds
    · refine ⟨hReached, ?_,
        fun hAfter => absurd hAfter hInside⟩
      rw [hSection.2 hInside]
      exact hBounds
  · have hKeeps := step_keeps hStep hRecv
    have hLower := hKeeps.lowerBound
    refine ⟨hReached, by omega, ?_⟩
    intro hInside
    rcases hKeeps.recvPc with hSame | ⟨_, hLeaves⟩
    · have hBefore := hInside
      rw [hSame] at hBefore
      rcases hOrder.inside hBefore with
        ⟨packet, hPc⟩ | ⟨origin, packet, hBegun⟩
      · exact Or.inl ⟨packet, hSame.trans hPc⟩
      · exact Or.inr ⟨origin, packet, hBegun.reached,
          hBegun.taken, hBegun.bounds, hBegun.safely,
          hBegun.handling.tail hStep ⟨hInside, hUpper⟩⟩
    · exfalso
      rcases hLeaves with ⟨bytes, hDecode⟩ | hTest
      · rw [hDecode] at hInside
        exact hInside
      · rw [hTest] at hInside
        exact hInside

/- The bounds are in order in every state of a safe run. -/
theorem bounds_of_stepsSafely
    {config : SenderConfig}
    {s : Sender}
    (hReach : Reaches step StepsSafely (fresh config) s) :
    s.window.lowerBound ≤ s.window.upperBound := by
  have hOrder : InOrder config s :=
    hReach.invariant
      ⟨.refl, le_rfl, fun hInside => hInside.elim⟩
      (fun _ _ _ hCurrent hNext hSafely =>
        inOrder_step hCurrent hNext hSafely)
  exact hOrder.bounds

/-
  For every packet that `recv_handler` takes in a reachable
  state whose bounds are in order, and every interleaving of
  its section with the other threads: if the packet can be
  taken safely, the window moves in order; and it does so
  only then, when the section is not disturbed by a further
  allocation and the slide loop does not wrap around. The
  upper bound is never touched, and the lower one in the
  section only; in a run in which every packet is taken
  safely the bounds are in order in every state.
-/
theorem movesInOrder_iff
    {config : SenderConfig}
    {s t : Sender}
    {packet : Packet}
    (hReach :
      Reaches step (fun _ _ _ => True) (fresh config) s)
    (hPc : s.recvPc = .insertAck packet)
    (hBounds :
      s.window.lowerBound ≤ s.window.upperBound)
    (hHandling : Reaches step Handles s t) :
    (s.TakesSafely packet → MovesInOrder s packet t) ∧
      (t.recvPc = .unlockAcked →
        t.window.upperBound = s.window.upperBound →
        (∃ n, s.window.lowerBound < n ∧ n < 2 ^ 32 ∧
          n ∉ s.ackedSeqSet) →
        MovesInOrder s packet t → s.TakesSafely packet) ∧
      (∀ current next : Sender,
        current.recvHandlerStep = some next →
        next.window.upperBound = current.window.upperBound ∧
          (¬ current.recvPc.InAcked →
            next.window = current.window)) ∧
      ∀ current : Sender,
        Reaches step StepsSafely (fresh config) current →
        current.window.lowerBound ≤
          current.window.upperBound := by
  refine ⟨?_, ?_, ?_, ?_⟩
  · intro hSafely
    have hBegun : BegunSafely config s t packet :=
      ⟨hReach, hPc, hBounds, hSafely, hHandling⟩
    exact hBegun.movesInOrder
  · intro hEnd hUpper hRoom hMoves
    exact takesSafely_of_movesInOrder hPc hHandling hEnd
      hUpper hRoom hMoves
  · intro current next hStep
    exact ⟨(recvHandlerStep_keeps hStep).upperBound,
      fun hOutside => window_recvHandlerStep hOutside hStep⟩
  · intro current hRun
    exact bounds_of_stepsSafely hRun

/-
  The acknowledgement of the connection request, taken in
  go-back-n with the request in the window.
-/
theorem movesInOrder_iff_connect :
    ∃ s t : Sender,
      s.recvPc = .insertAck ⟨version, .connAck, 1, []⟩ ∧
      t.recvPc = .unlockAcked ∧
      t.window.lowerBound = 1 ∧
      s.TakesSafely ⟨version, .connAck, 1, []⟩ ∧
      MovesInOrder s ⟨version, .connAck, 1, []⟩ t := by
  have hRun :
      ∃ s,
        Reaches step (fun _ _ _ => True)
          (fresh ⟨1, 0, 1, false, false⟩) s ∧
        s.recvPc = .insertAck ⟨version, .connAck, 1, []⟩ ∧
        s.selectiveRepeat = false ∧
        s.window.upperBound = 1 ∧
        s.window.lowerBound = 0 ∧
        (runActions step Handles s
          (steps .recvHandler 5)).any
          (fun t =>
            decide
              (t.recvPc = .unlockAcked ∧
                t.window.lowerBound = 1)) = true :=
    exists_reaches_of_runActions
      ([Action.call (.connect ⟨0, 1⟩)] ++ steps .caller 10 ++
        steps .sendHandler 13 ++ steps .recvHandler 1 ++
        [Action.recv (.datagram
          (Packet.toBytes ⟨version, .connAck, 1, []⟩)
          ⟨0, 1⟩)] ++
        steps .recvHandler 7)
      (by decide +kernel)
  obtain ⟨s, hReach, hPc, hMode, hUpper, hLower, hSection⟩ :=
    hRun
  cases hState :
      runActions step Handles s (steps .recvHandler 5) with
  | none =>
      rw [hState] at hSection
      cases hSection
  | some t =>
      rw [hState] at hSection
      have hAfter := of_decide_eq_true hSection
      have hSafely :
          s.TakesSafely ⟨version, .connAck, 1, []⟩ := by
        unfold TakesSafely
        rw [hMode, hUpper]
        exact fun _ => ⟨rfl, le_rfl⟩
      have hMoves :=
        (movesInOrder_iff hReach hPc (by omega)
          (reaches_of_runActions .refl hState)).1 hSafely
      exact ⟨s, t, hPc, hAfter.1, hAfter.2, hSafely, hMoves⟩

/-
  A data packet numbered 5 reaches a sender that has sent
  nothing: the lower bound passes the upper one, and their
  difference underflows.
-/
theorem exists_not_movesInOrder :
    ∃ s t : Sender,
      Reaches step (fun _ _ _ => True)
        (fresh ⟨1, 0, 1, false, false⟩) s ∧
      Reaches step Handles s t ∧
      s.recvPc = .insertAck ⟨version, .data, 5, []⟩ ∧
      s.window.lowerBound ≤ s.window.upperBound ∧
      t.recvPc = .unlockAcked ∧
      t.window.lowerBound = 5 ∧
      SequenceNumber.sub t.window.upperBound
        t.window.lowerBound = 2 ^ 32 - 5 ∧
      ¬ MovesInOrder s ⟨version, .data, 5, []⟩ t := by
  have hRun :
      ∃ s,
        Reaches step (fun _ _ _ => True)
          (fresh ⟨1, 0, 1, false, false⟩) s ∧
        s.recvPc = .insertAck ⟨version, .data, 5, []⟩ ∧
        s.window.lowerBound ≤ s.window.upperBound ∧
        (runActions step Handles s
          (steps .recvHandler 5)).any
          (fun t =>
            decide
              (t.recvPc = .unlockAcked ∧
                t.window.lowerBound = 5 ∧
                t.window.upperBound = 0)) = true :=
    exists_reaches_of_runActions
      (steps .recvHandler 1 ++
        [Action.recv (.datagram
          (Packet.toBytes ⟨version, .data, 5, []⟩)
          ⟨0, 1⟩)] ++
        steps .recvHandler 3)
      (by decide +kernel)
  obtain ⟨s, hReach, hPc, hBounds, hSection⟩ := hRun
  cases hState :
      runActions step Handles s (steps .recvHandler 5) with
  | none =>
      rw [hState] at hSection
      cases hSection
  | some t =>
      rw [hState] at hSection
      obtain ⟨hEnd, hLower, hUpper⟩ :=
        of_decide_eq_true hSection
      refine ⟨s, t, hReach, reaches_of_runActions .refl hState,
        hPc, hBounds, hEnd, hLower, ?_, ?_⟩
      · rw [hLower, hUpper]
        rfl
      · intro hMoves
        have hBounded := hMoves.bounded
        omega

end Sender

end Nkurdt
