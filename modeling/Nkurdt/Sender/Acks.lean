import Nkurdt.Sender.Deadlock
import Nkurdt.Sender.Scheduling

/-
  What `recv_handler` takes for an acknowledgement.

  `recv_handler` takes any packet for an acknowledgement: in
  go-back-n of everything below its number, in selective
  repeat of the number itself. Only the insertion of a packet
  makes a number taken, and it stays so. Between two packets
  the lower bound is past everything in front of the first
  number that has not been taken.

  Main declarations:
    * `Sender.AckReceived`
    * `Sender.Covered`
    * `Sender.Taken`
    * `Sender.WindowReady`
    * `Sender.taken_or_covers`
    * `Sender.taken_mono`
    * `Sender.AcksTaken`
    * `Sender.Cleared`
-/

------------------------------------------------------------
-- Acknowledgements
------------------------------------------------------------

namespace Nkurdt

/- The packet that `recv_handler` works on. -/
def RecvPc.packet? : RecvPc → Option Packet
| .dispatch packet => some packet
| .lockState _ packet => some packet
| .setState _ packet => some packet
| .unlockState packet => some packet
| .notify packet => some packet
| .lockAcked packet => some packet
| .insertAck packet => some packet
| .compare packet => some packet
| .fastLower packet => some packet
| .fastUpper packet _ => some packet
| .lockQueue packet _ _ => some packet
| .pushAll packet _ _ => some packet
| .unlockQueue packet => some packet
| .countDup packet => some packet
| .less packet => some packet
| .setLower packet => some packet
| .eraseAck packet => some packet
| _ => none

/- The packet that is still to be inserted. -/
def RecvPc.untaken? : RecvPc → Option Packet
| .dispatch packet => some packet
| .lockState _ packet => some packet
| .setState _ packet => some packet
| .unlockState packet => some packet
| .notify packet => some packet
| .lockAcked packet => some packet
| .insertAck packet => some packet
| _ => none

/- The packet that is about to be compared or to slide. -/
def RecvPc.sliding? : RecvPc → Option Packet
| .compare packet => some packet
| .less packet => some packet
| .setLower packet => some packet
| _ => none

/- A packet has been received and is not dealt with yet. -/
def RecvPc.AtWork (pc : RecvPc) : Prop :=
  pc.packet? ≠ none ∨ pc = .slide

instance (pc : RecvPc) : Decidable pc.AtWork :=
  inferInstanceAs (Decidable (_ ∨ _))

/- A packet that is still to be inserted is in hand. -/
theorem RecvPc.atWork_of_untaken?
    {pc : RecvPc}
    {packet : Packet}
    (hUntaken : pc.untaken? = some packet) :
    pc.AtWork := by
  left
  cases pc
  case dispatch | lockState | setState | unlockState | notify =>
    exact Option.some_ne_none _
  case lockAcked | insertAck => exact Option.some_ne_none _
  all_goals cases hUntaken

namespace Sender

/- The packet is taken for one that covers the number. -/
def Covers (s : Sender) (n : Nat) (packet : Packet) : Prop :=
  if s.selectiveRepeat then
    packet.seq = n
  else
    n < packet.seq

instance (s : Sender) (n : Nat) (packet : Packet) :
    Decidable (s.Covers n packet) :=
  inferInstanceAs (Decidable (ite _ _ _))

/- The packet is an acknowledgement of the number. -/
def Acknowledges
    (s : Sender)
    (packet : Packet)
    (n : Nat) : Prop :=
  packet.kind.isAck = true ∧ s.Covers n packet

instance (s : Sender) (packet : Packet) (n : Nat) :
    Decidable (s.Acknowledges packet n) :=
  inferInstanceAs (Decidable (_ ∧ _))

/- An acknowledgement of the number has been received. -/
def AckReceived (s : Sender) (n : Nat) : Prop :=
  ∃ packet ∈ s.history.received, s.Acknowledges packet n

instance (s : Sender) (n : Nat) :
    Decidable (s.AckReceived n) :=
  inferInstanceAs (Decidable (∃ _ ∈ _, _))

/- A packet of any kind that covers the number has been. -/
def Covered (s : Sender) (n : Nat) : Prop :=
  ∃ packet ∈ s.history.received, s.Covers n packet

instance (s : Sender) (n : Nat) :
    Decidable (s.Covered n) :=
  inferInstanceAs (Decidable (∃ _ ∈ _, _))

/-
  The number has been taken for acknowledged: the window is
  past it, or it is in the set, or in go-back-n a greater
  number is about to become the lower bound.
-/
def Taken (s : Sender) (n : Nat) : Prop :=
  n < s.window.lowerBound ∨
    if s.selectiveRepeat then
      n ∈ s.ackedSeqSet
    else
      ∃ packet, s.recvPc.sliding? = some packet ∧
        n < packet.seq

/- What has been received stays received. -/
theorem ackReceived_mono
    {s s' : Sender}
    {n : Nat}
    (hMode : s'.selectiveRepeat = s.selectiveRepeat)
    (hReceived :
      ∀ packet ∈ s.history.received,
        packet ∈ s'.history.received)
    (hAck : s.AckReceived n) :
    s'.AckReceived n := by
  rcases hAck with ⟨packet, hMember, hKind, hCovers⟩
  refine ⟨packet, hReceived packet hMember, hKind, ?_⟩
  unfold Covers at hCovers ⊢
  rw [hMode]
  exact hCovers

theorem covered_mono
    {s s' : Sender}
    {n : Nat}
    (hMode : s'.selectiveRepeat = s.selectiveRepeat)
    (hReceived :
      ∀ packet ∈ s.history.received,
        packet ∈ s'.history.received)
    (hCovered : s.Covered n) :
    s'.Covered n := by
  rcases hCovered with ⟨packet, hMember, hCovers⟩
  refine ⟨packet, hReceived packet hMember, ?_⟩
  unfold Covers at hCovers ⊢
  rw [hMode]
  exact hCovers

end Sender

end Nkurdt

------------------------------------------------------------
-- Between Two Packets
------------------------------------------------------------

namespace Nkurdt

namespace Sender

/-
  Between two packets the lower bound is not in the set of
  acknowledged numbers, and each mode has its own branch.
-/
structure WindowReady (s : Sender) : Prop where
  clear :
    s.selectiveRepeat = true → s.recvPc ≠ .slide →
      s.window.lowerBound ∉ s.ackedSeqSet
  goBackN :
    s.recvPc.InGoBackN → s.selectiveRepeat = false
  slide : s.recvPc = .slide → s.selectiveRepeat = true

theorem windowReady_fresh
    (config : SenderConfig) :
    WindowReady (fresh config) :=
  ⟨fun _ _ => Finset.notMem_empty _,
    fun hGoBackN => hGoBackN.elim,
    fun hSlide => by cases hSlide⟩

theorem windowReady_recvHandlerStep
    {s s' : Sender}
    (hReady : WindowReady s)
    (hStep : s.recvHandlerStep = some s') :
    WindowReady s' := by
  have hConfig := (recvHandlerStep_keeps hStep).selectiveRepeat
  refine ⟨?_, inGoBackN_recvHandlerStep hReady.goBackN hStep,
    ?_⟩
  · intro hMode hNext
    rw [hConfig] at hMode
    cases recvHandlerStep_branch hStep with
    | settles _ hMissing => exact hMissing
    | slides | insertsToSlide => exact absurd rfl hNext
    | insertsToCompare _ hGoBackN =>
        rw [hMode] at hGoBackN
        cases hGoBackN
    | setsLower hPc | erases hPc =>
        rw [hReady.goBackN (by rw [hPc]; trivial)] at hMode
        cases hMode
    | _ hPc =>
        refine hReady.clear hMode ?_
        rw [hPc]
        exact fun hSlide => by cases hSlide
  · intro hNext
    rw [hConfig]
    cases recvHandlerStep_branch hStep with
    | insertsToSlide _ hMode => exact hMode
    | slides hPc => exact hReady.slide hPc
    | _ => cases hNext

theorem windowReady_step
    {s s' : Sender}
    {action : Action}
    (hReady : WindowReady s)
    (hStep : s.step action = some s') :
    WindowReady s' := by
  by_cases hRecv : action = .thread .recvHandler
  · subst hRecv
    exact windowReady_recvHandlerStep hReady hStep
  have hKeeps := step_keeps hStep hRecv
  rcases hKeeps.recvPc with hSame | ⟨hBefore, hAfter⟩
  · refine ⟨?_, ?_, ?_⟩
    · rw [hKeeps.selectiveRepeat, hKeeps.lowerBound,
        hKeeps.ackedSeqSet, hSame]
      exact hReady.clear
    · rw [hKeeps.selectiveRepeat, hSame]
      exact hReady.goBackN
    · rw [hKeeps.selectiveRepeat, hSame]
      exact hReady.slide
  · have hNext :
        ¬ s'.recvPc.InGoBackN ∧ s'.recvPc ≠ .slide := by
      rcases hAfter with ⟨bytes, hDecode⟩ | hTest
      · rw [hDecode]
        exact ⟨fun h => h, fun h => by cases h⟩
      · rw [hTest]
        exact ⟨fun h => h, fun h => by cases h⟩
    refine ⟨?_, ?_, ?_⟩
    · intro hMode _
      rw [hKeeps.lowerBound, hKeeps.ackedSeqSet]
      rw [hKeeps.selectiveRepeat] at hMode
      refine hReady.clear hMode ?_
      rw [hBefore]
      exact fun h => by cases h
    · exact fun hInside => absurd hInside hNext.1
    · exact fun hSlide => absurd hSlide hNext.2

end Sender

end Nkurdt

------------------------------------------------------------
-- Numbers Taken for Acknowledged
------------------------------------------------------------

namespace Nkurdt

namespace Sender

/- The notions in each of the two modes. -/
theorem covers_selectiveRepeat
    {s : Sender}
    {n : Nat}
    {packet : Packet}
    (hMode : s.selectiveRepeat = true) :
    s.Covers n packet ↔ packet.seq = n := by
  unfold Covers
  rw [if_pos hMode]

theorem covers_goBackN
    {s : Sender}
    {n : Nat}
    {packet : Packet}
    (hMode : s.selectiveRepeat = false) :
    s.Covers n packet ↔ n < packet.seq := by
  unfold Covers
  rw [hMode, if_neg Bool.false_ne_true]

theorem taken_selectiveRepeat
    {s : Sender}
    {n : Nat}
    (hMode : s.selectiveRepeat = true) :
    s.Taken n ↔
      n < s.window.lowerBound ∨ n ∈ s.ackedSeqSet := by
  unfold Taken
  rw [if_pos hMode]

theorem taken_goBackN
    {s : Sender}
    {n : Nat}
    (hMode : s.selectiveRepeat = false) :
    s.Taken n ↔
      n < s.window.lowerBound ∨
        ∃ packet, s.recvPc.sliding? = some packet ∧
          n < packet.seq := by
  unfold Taken
  rw [hMode, if_neg Bool.false_ne_true]

/- Nothing is taken where nothing is inserted or moved. -/
theorem taken_of_same
    {s s' : Sender}
    {n : Nat}
    (hMode : s'.selectiveRepeat = s.selectiveRepeat)
    (hLower : s'.window.lowerBound = s.window.lowerBound)
    (hAcked : s'.ackedSeqSet = s.ackedSeqSet)
    (hSliding :
      ∀ packet, s'.recvPc.sliding? = some packet →
        s.recvPc.sliding? = some packet)
    (hTaken : s'.Taken n) :
    s.Taken n := by
  unfold Taken at hTaken ⊢
  rw [hLower, hMode, hAcked] at hTaken
  refine hTaken.imp_right (fun hAhead => ?_)
  split_ifs at hAhead ⊢
  · exact hAhead
  · rcases hAhead with ⟨packet, hPacket, hLess⟩
    exact ⟨packet, hSliding packet hPacket, hLess⟩

/- In go-back-n the packet is compared, and slides. -/
theorem taken_recvHandlerStep_goBackN
    {s s' : Sender}
    {n : Nat}
    (hReady : WindowReady s)
    (hMode : s.selectiveRepeat = false)
    (hStep : s.recvHandlerStep = some s')
    (hTaken : s'.Taken n) :
    s.Taken n ∨
      ∃ packet, s.recvPc = .insertAck packet ∧
        n < packet.seq := by
  have hMode' : s'.selectiveRepeat = false :=
    (recvHandlerStep_keeps hStep).selectiveRepeat.trans hMode
  rw [taken_goBackN hMode'] at hTaken
  rw [taken_goBackN hMode]
  rcases hTaken with hPassed | ⟨packet, hPacket, hLess⟩
  · cases recvHandlerStep_branch hStep with
    | @setsLower packet hPc =>
        exact Or.inl
          (Or.inr ⟨packet, by rw [hPc]; rfl, hPassed⟩)
    | slides hPc =>
        rw [hReady.slide hPc] at hMode
        cases hMode
    | _ => exact Or.inl (Or.inl hPassed)
  · cases recvHandlerStep_branch hStep with
    | insertsToCompare hPc =>
        cases hPacket
        exact Or.inr ⟨packet, hPc, hLess⟩
    | differs hPc | exceeds hPc =>
        exact Or.inl (Or.inr
          ⟨packet, by rw [hPc]; exact hPacket, hLess⟩)
    | _ => cases hPacket

/- In selective repeat the set gains what is inserted. -/
theorem taken_recvHandlerStep_selectiveRepeat
    {s s' : Sender}
    {n : Nat}
    (hReady : WindowReady s)
    (hMode : s.selectiveRepeat = true)
    (hStep : s.recvHandlerStep = some s')
    (hTaken : s'.Taken n) :
    s.Taken n ∨
      ∃ packet, s.recvPc = .insertAck packet ∧
        packet.seq = n := by
  have hMode' : s'.selectiveRepeat = true :=
    (recvHandlerStep_keeps hStep).selectiveRepeat.trans hMode
  rw [taken_selectiveRepeat hMode'] at hTaken
  rw [taken_selectiveRepeat hMode]
  cases recvHandlerStep_branch hStep with
  | @insertsToSlide packet hPc =>
      rcases hTaken with hPassed | hMember
      · exact Or.inl (Or.inl hPassed)
      rcases Finset.mem_insert.mp hMember with hNew | hOld
      · exact Or.inr ⟨packet, hPc, hNew.symm⟩
      · exact Or.inl (Or.inr hOld)
  | insertsToCompare _ hOther =>
      rw [hMode] at hOther
      cases hOther
  | setsLower hPc | erases hPc =>
      rw [hReady.goBackN (by rw [hPc]; trivial)] at hMode
      cases hMode
  | slides hPc hMember =>
      rcases hTaken with hPassed | hStill
      · have hNext :
            n < SequenceNumber.update s.window.lowerBound :=
          hPassed
        have hLe :
            SequenceNumber.update s.window.lowerBound ≤
              s.window.lowerBound + 1 :=
          Nat.mod_le _ _
        by_cases hNumber : n = s.window.lowerBound
        · rw [hNumber]
          exact Or.inl (Or.inr hMember)
        · exact Or.inl (Or.inl (by omega))
      · exact Or.inl
          (Or.inr (Finset.mem_of_mem_erase hStill))
  | _ => exact Or.inl hTaken

/-
  A number is taken by the insertion of a packet that covers
  it, and in no other way.
-/
theorem taken_or_covers
    {s s' : Sender}
    {action : Action}
    {n : Nat}
    (hReady : WindowReady s)
    (hStep : s.step action = some s')
    (hTaken : s'.Taken n) :
    s.Taken n ∨
      action = .thread .recvHandler ∧
        ∃ packet, s.recvPc = .insertAck packet ∧
          s.Covers n packet := by
  by_cases hRecv : action = .thread .recvHandler
  · subst hRecv
    unfold Covers
    cases hMode : s.selectiveRepeat with
    | false =>
        exact (taken_recvHandlerStep_goBackN hReady hMode
          hStep hTaken).imp_right (fun hInserts => ⟨rfl, hInserts⟩)
    | true =>
        exact (taken_recvHandlerStep_selectiveRepeat hReady
          hMode hStep hTaken).imp_right
            (fun hInserts => ⟨rfl, hInserts⟩)
  · have hKeeps := step_keeps hStep hRecv
    refine Or.inl (taken_of_same hKeeps.selectiveRepeat
      hKeeps.lowerBound hKeeps.ackedSeqSet ?_ hTaken)
    rcases hKeeps.recvPc with
      hSame | ⟨_, ⟨bytes, hNext⟩ | hNext⟩
    · rw [hSame]
      exact fun _ hPacket => hPacket
    · rw [hNext]
      exact fun _ hPacket => by cases hPacket
    · rw [hNext]
      exact fun _ hPacket => by cases hPacket

/- What has been taken stays so. -/
theorem taken_mono
    {s s' : Sender}
    {action : Action}
    {n : Nat}
    (hReady : WindowReady s)
    (hTaken : s.Taken n)
    (hStep : s.step action = some s')
    (hWrap : NoWrap s s') :
    s'.Taken n := by
  by_cases hRecv : action = .thread .recvHandler
  · subst hRecv
    have hKeeps := recvHandlerStep_keeps hStep
    cases hMode : s.selectiveRepeat with
    | false =>
        have hMode' := hKeeps.selectiveRepeat.trans hMode
        rw [taken_goBackN hMode] at hTaken
        rw [taken_goBackN hMode']
        rcases hTaken with hPassed | ⟨packet, hPacket, hLess⟩
        · exact Or.inl (hPassed.trans_le hWrap.lower)
        cases recvHandlerStep_branch hStep with
        | repeats hPc hEqual | repeatsFast hPc hEqual =>
            rw [hPc] at hPacket
            cases hPacket
            exact Or.inl (hLess.trans_eq hEqual.symm)
        | differs hPc | exceeds hPc =>
            rw [hPc] at hPacket
            exact Or.inr ⟨packet, hPacket, hLess⟩
        | fallsBehind hPc hNotLess =>
            rw [hPc] at hPacket
            cases hPacket
            exact Or.inl (hLess.trans_le (not_lt.mp hNotLess))
        | setsLower hPc =>
            rw [hPc] at hPacket
            cases hPacket
            exact Or.inl hLess
        | _ hPc =>
            rw [hPc] at hPacket
            cases hPacket
    | true =>
        have hMode' := hKeeps.selectiveRepeat.trans hMode
        rw [taken_selectiveRepeat hMode] at hTaken
        rw [taken_selectiveRepeat hMode']
        rcases hTaken with hPassed | hMember
        · exact Or.inl (hPassed.trans_le hWrap.lower)
        cases recvHandlerStep_branch hStep with
        | insertsToSlide | insertsToCompare =>
            exact Or.inr (Finset.mem_insert_of_mem hMember)
        | erases hPc =>
            rw [hReady.goBackN (by rw [hPc]; trivial)] at hMode
            cases hMode
        | slides =>
            by_cases hNumber : n = s.window.lowerBound
            · have hNext :=
                (SequenceNumber.update_of_le hWrap.lower).1
              left
              change
                n < SequenceNumber.update s.window.lowerBound
              omega
            · exact Or.inr
                (Finset.mem_erase.mpr ⟨hNumber, hMember⟩)
        | _ => exact Or.inr hMember
  · have hKeeps := step_keeps hStep hRecv
    refine taken_of_same hKeeps.selectiveRepeat.symm
      hKeeps.lowerBound.symm hKeeps.ackedSeqSet.symm ?_ hTaken
    rcases hKeeps.recvPc with hSame | ⟨hPc, _⟩
    · rw [hSame]
      exact fun _ hPacket => hPacket
    · rw [hPc]
      exact fun _ hPacket => by cases hPacket

end Sender

end Nkurdt

------------------------------------------------------------
-- Received and Taken
------------------------------------------------------------

namespace Nkurdt

namespace Sender

open Runs

/- What has been received stays received. -/
theorem mem_received_recvHandlerStep
    {s s' : Sender}
    {packet : Packet}
    (hStep : s.recvHandlerStep = some s')
    (hMember : packet ∈ s.history.received) :
    packet ∈ s'.history.received := by
  cases recvHandlerStep_branch hStep with
  | decodes => exact List.mem_append_left _ hMember
  | _ => exact hMember

theorem mem_received_step
    {s s' : Sender}
    {action : Action}
    {packet : Packet}
    (hStep : s.step action = some s')
    (hMember : packet ∈ s.history.received) :
    packet ∈ s'.history.received := by
  by_cases hRecv : action = .thread .recvHandler
  · subst hRecv
    exact mem_received_recvHandlerStep hStep hMember
  · rw [(step_keeps hStep hRecv).received]
    exact hMember

/-
  The packet in hand has been received, what is taken is
  covered by a received packet, and each received packet is
  still to be inserted or has made what it covers taken.
-/
structure AcksTaken (s : Sender) : Prop where
  ready : WindowReady s
  inHand :
    ∀ packet, s.recvPc.packet? = some packet →
      packet ∈ s.history.received
  covered : ∀ n, s.Taken n → s.Covered n
  taken :
    ∀ packet ∈ s.history.received,
      s.recvPc.untaken? = some packet ∨
        ∀ n, s.Covers n packet → s.Taken n

theorem acksTaken_fresh
    (config : SenderConfig) :
    AcksTaken (fresh config) := by
  refine ⟨windowReady_fresh config, ?_, ?_, ?_⟩
  · exact fun _ hPacket => by cases hPacket
  · intro n hTaken
    rcases hTaken with hPassed | hAhead
    · exact absurd hPassed (Nat.not_lt_zero n)
    · split_ifs at hAhead
      · exact absurd hAhead (Finset.notMem_empty n)
      · rcases hAhead with ⟨_, hPacket, _⟩
        cases hPacket
  · exact fun _ hMember => by cases hMember

/- A packet that has just been received is in hand. -/
theorem received_recvHandlerStep
    {s s' : Sender}
    {packet : Packet}
    (hStep : s.recvHandlerStep = some s')
    (hMember : packet ∈ s'.history.received) :
    packet ∈ s.history.received ∨
      s'.recvPc.untaken? = some packet := by
  cases recvHandlerStep_branch hStep with
  | decodes =>
      rcases List.mem_append.mp hMember with hOld | hNew
      · exact Or.inl hOld
      · rw [List.mem_singleton.mp hNew]
        exact Or.inr rfl
  | _ => exact Or.inl hMember

/- How `recv_handler` gets hold of a packet. -/
theorem packet?_recvHandlerStep
    {s s' : Sender}
    (hStep : s.recvHandlerStep = some s') :
    (∀ packet, s'.recvPc.packet? = some packet →
        s.recvPc.packet? = some packet ∨
          ∃ bytes, s.recvPc = .decode bytes ∧
            Packet.fromBytes bytes = some (some packet)) ∧
      ∀ bytes, s'.recvPc ≠ .decode bytes := by
  cases recvHandlerStep_branch hStep with
  | decodes hPc hDecode =>
      refine ⟨?_, fun _ hNext => by cases hNext⟩
      intro packet' hNext
      cases hNext
      exact Or.inr ⟨_, hPc, hDecode⟩
  | _ hPc =>
      rw [hPc]
      refine ⟨?_, fun _ hNext => by cases hNext⟩
      intro packet hNext
      first
        | exact Or.inl hNext
        | cases hNext

/- The packet is inserted, or it is still to be. -/
theorem untaken_recvHandlerStep
    {s s' : Sender}
    {packet : Packet}
    (hStep : s.recvHandlerStep = some s')
    (hUntaken : s.recvPc.untaken? = some packet) :
    s'.recvPc.untaken? = some packet ∨
      ∀ n, s'.Covers n packet → s'.Taken n := by
  have hMode := (recvHandlerStep_keeps hStep).selectiveRepeat
  cases recvHandlerStep_branch hStep with
  | insertsToSlide hPc hRepeat =>
      rw [hPc] at hUntaken
      cases hUntaken
      right
      intro n hCovers
      rw [covers_selectiveRepeat (hMode.trans hRepeat)]
        at hCovers
      rw [taken_selectiveRepeat (hMode.trans hRepeat),
        ← hCovers]
      exact Or.inr (Finset.mem_insert_self _ _)
  | insertsToCompare hPc hGoBackN =>
      rw [hPc] at hUntaken
      cases hUntaken
      right
      intro n hCovers
      rw [covers_goBackN (hMode.trans hGoBackN)] at hCovers
      rw [taken_goBackN (hMode.trans hGoBackN)]
      exact Or.inr ⟨_, rfl, hCovers⟩
  | takes hPc | passes hPc | locksState hPc =>
      rw [hPc] at hUntaken
      exact Or.inl hUntaken
  | setsState hPc | unlocksState hPc | notifies hPc =>
      rw [hPc] at hUntaken
      exact Or.inl hUntaken
  | locksAcked hPc =>
      rw [hPc] at hUntaken
      exact Or.inl hUntaken
  | _ hPc =>
      rw [hPc] at hUntaken
      cases hUntaken

/- The mode of a sender does not change. -/
theorem covers_step
    {s s' : Sender}
    {action : Action}
    {n : Nat}
    {packet : Packet}
    (hStep : s.step action = some s') :
    s'.Covers n packet ↔ s.Covers n packet := by
  unfold Covers
  rw [(sameConfig_step hStep).selectiveRepeat]

theorem acksTaken_step
    {s s' : Sender}
    {action : Action}
    (hAcks : AcksTaken s)
    (hStep : s.step action = some s')
    (hWrap : NoWrap s s') :
    AcksTaken s' := by
  have hReady := hAcks.ready
  have hStill :
      ∀ packet,
        (∀ n, s.Covers n packet → s.Taken n) →
        ∀ n, s'.Covers n packet → s'.Taken n := by
    intro packet hTaken n hCovers
    exact taken_mono hReady
      (hTaken n ((covers_step hStep).mp hCovers)) hStep hWrap
  refine ⟨windowReady_step hReady hStep, ?_, ?_, ?_⟩
  · intro packet hPacket
    by_cases hRecv : action = .thread .recvHandler
    · subst hRecv
      rcases (packet?_recvHandlerStep hStep).1 packet
          hPacket with hOld | ⟨bytes, hPc, hDecode⟩
      · exact mem_received_recvHandlerStep hStep
          (hAcks.inHand packet hOld)
      · change s.recvHandlerStep = some s' at hStep
        unfold recvHandlerStep at hStep
        simp only [hPc, hDecode, Option.some.injEq] at hStep
        rw [← hStep]
        exact List.mem_append_right _
          (List.mem_singleton_self _)
    · have hKeeps := step_keeps hStep hRecv
      rw [hKeeps.received]
      rcases hKeeps.recvPc with
        hSame | ⟨_, ⟨bytes, hNext⟩ | hNext⟩
      · rw [hSame] at hPacket
        exact hAcks.inHand packet hPacket
      · rw [hNext] at hPacket
        cases hPacket
      · rw [hNext] at hPacket
        cases hPacket
  · intro n hTaken
    rcases taken_or_covers hReady hStep hTaken with
      hOld | ⟨_, packet, hPc, hCovers⟩
    · exact covered_mono
        (sameConfig_step hStep).selectiveRepeat
        (fun _ => mem_received_step hStep)
        (hAcks.covered n hOld)
    · have hMember := hAcks.inHand packet (by rw [hPc]; rfl)
      exact ⟨packet, mem_received_step hStep hMember,
        (covers_step hStep).mpr hCovers⟩
  · intro packet hMember
    by_cases hRecv : action = .thread .recvHandler
    · subst hRecv
      rcases received_recvHandlerStep hStep hMember with
        hOld | hNew
      · rcases hAcks.taken packet hOld with
          hUntaken | hTaken
        · exact untaken_recvHandlerStep hStep hUntaken
        · exact Or.inr (hStill packet hTaken)
      · exact Or.inl hNew
    · have hKeeps := step_keeps hStep hRecv
      rw [hKeeps.received] at hMember
      rcases hAcks.taken packet hMember with
        hUntaken | hTaken
      · left
        rcases hKeeps.recvPc with hSame | ⟨hPc, _⟩
        · rw [hSame]
          exact hUntaken
        · rw [hPc] at hUntaken
          cases hUntaken
      · exact Or.inr (hStill packet hTaken)

/-
  Between two packets the lower bound is past a number in
  front of which everything is taken.
-/
theorem lt_lowerBound_of_taken
    {s : Sender}
    {n : Nat}
    (hReady : WindowReady s)
    (hRest : ¬ s.recvPc.AtWork)
    (hTaken : ∀ m ≤ n, s.Taken m) :
    n < s.window.lowerBound := by
  by_contra hAhead
  have hLowest :=
    hTaken s.window.lowerBound (not_lt.mp hAhead)
  cases hMode : s.selectiveRepeat with
  | false =>
      rcases (taken_goBackN hMode).mp hLowest with
        hPassed | ⟨packet, hPacket, _⟩
      · exact absurd hPassed (lt_irrefl _)
      · apply hRest
        left
        cases hPc : s.recvPc
        all_goals rw [hPc] at hPacket
        case compare | less | setLower =>
          exact Option.some_ne_none _
        all_goals cases hPacket
  | true =>
      rcases (taken_selectiveRepeat hMode).mp hLowest with
        hPassed | hMember
      · exact absurd hPassed (lt_irrefl _)
      · exact hReady.clear hMode
          (fun hSlide => hRest (Or.inr hSlide)) hMember

end Sender

end Nkurdt

------------------------------------------------------------
-- Numbers That Have Passed the Checks
------------------------------------------------------------

namespace Nkurdt

/- The number that has passed the test of the set. -/
def SendPc.unacked? : SendPc → Option Nat
| .checkLower seq => some seq
| .readLower seq => some seq
| .readUpper seq _ => some seq
| .retry seq => some seq
| .transmit seq => some seq
| _ => none

/- The number that has passed the test of the bound. -/
def SendPc.inWindow? : SendPc → Option Nat
| .readLower seq => some seq
| .readUpper seq _ => some seq
| .retry seq => some seq
| .transmit seq => some seq
| _ => none

/- Both tests are in the section of the mutex. -/
theorem SendPc.inAcked_of_unacked?
    {pc : SendPc}
    {n : Nat}
    (hUnacked : pc.unacked? = some n) :
    pc.InAcked := by
  cases pc
  case checkLower | readLower | readUpper | retry | transmit =>
    exact trivial
  all_goals cases hUnacked

theorem SendPc.unacked?_of_inWindow?
    {pc : SendPc}
    {n : Nat}
    (hInWindow : pc.inWindow? = some n) :
    pc.unacked? = some n := by
  cases pc
  case readLower | readUpper | retry | transmit =>
    exact hInWindow
  all_goals cases hInWindow

namespace Sender

/- What the checks have found still holds. -/
structure Cleared (s : Sender) : Prop where
  acked :
    ∀ n, s.sendPc.unacked? = some n →
      s.selectiveRepeat = true → n ∉ s.ackedSeqSet
  lower :
    ∀ n, s.sendPc.inWindow? = some n →
      s.window.lowerBound ≤ n

/- No number has passed a check. -/
theorem cleared_of_none
    {s : Sender}
    (hNone : s.sendPc.unacked? = none) :
    Cleared s := by
  refine ⟨?_, ?_⟩
  · intro n hNext
    rw [hNone] at hNext
    cases hNext
  · intro n hNext
    have hUnacked := SendPc.unacked?_of_inWindow? hNext
    rw [hNone] at hUnacked
    cases hUnacked

theorem cleared_fresh
    (config : SenderConfig) :
    Cleared (fresh config) :=
  cleared_of_none rfl

theorem Cleared.congr
    {s s' : Sender}
    (hCleared : Cleared s)
    (hMode : s'.selectiveRepeat = s.selectiveRepeat)
    (hLower : s'.window.lowerBound = s.window.lowerBound)
    (hAcked : s'.ackedSeqSet = s.ackedSeqSet)
    (hPc : s'.sendPc = s.sendPc) :
    Cleared s' where
  acked := by
    rw [hMode, hAcked, hPc]
    exact hCleared.acked
  lower := by
    rw [hLower, hPc]
    exact hCleared.lower

theorem cleared_sendHandlerStep
    {s s' : Sender}
    (hCleared : Cleared s)
    (hStep : s.sendHandlerStep = some s') :
    Cleared s' := by
  have hAcked := hCleared.acked
  have hLower := hCleared.lower
  cases sendHandlerStep_branch hStep with
  | findsUnacked hPc hUnacked =>
      refine ⟨?_, fun _ hNext => by cases hNext⟩
      intro n hNext hMode hMember
      cases hNext
      exact hUnacked ⟨hMode, hMember⟩
  | findsInside hPc hNotBelow =>
      rw [hPc] at hAcked
      refine ⟨hAcked, ?_⟩
      intro n hNext
      cases hNext
      exact not_lt.mp hNotBelow
  | readsLower hPc | findsOpen hPc =>
      rw [hPc] at hAcked hLower
      exact ⟨hAcked, hLower⟩
  | retries hPc | starts hPc =>
      rw [hPc] at hAcked hLower
      exact ⟨hAcked, hLower⟩
  | _ => exact cleared_of_none rfl

/- The set is touched in the section of its mutex only. -/
theorem ackedSeqSet_recvHandlerStep
    {s s' : Sender}
    (hOutside : ¬ s.recvPc.InAcked)
    (hStep : s.recvHandlerStep = some s') :
    s'.ackedSeqSet = s.ackedSeqSet := by
  cases recvHandlerStep_branch hStep with
  | insertsToSlide hPc | insertsToCompare hPc =>
      exact absurd (by rw [hPc]; trivial) hOutside
  | erases hPc | slides hPc =>
      exact absurd (by rw [hPc]; trivial) hOutside
  | _ => rfl

theorem cleared_step
    {s s' : Sender}
    {action : Action}
    (hGuarded : MutexesGuarded s)
    (hCleared : Cleared s)
    (hStep : s.step action = some s') :
    Cleared s' := by
  by_cases hSend : action = .thread .sendHandler
  · subst hSend
    exact cleared_sendHandlerStep hCleared hStep
  have hPc := (sendHandler_of_other hStep hSend).1
  by_cases hRecv : action = .thread .recvHandler
  · subst hRecv
    have hConfig := sameConfig_step hStep
    by_cases hInside : s.recvPc.InAcked
    · -- Then `send_handler` is outside, past no check.
      have hOutside : ¬ s.sendPc.InAcked := by
        intro hBoth
        have hSame :=
          @Mutexes.Guarded.exclusive Thread _ _
            hGuarded.acked .sendHandler .recvHandler
            hBoth hInside
        cases hSame
      apply cleared_of_none
      rw [hPc]
      by_contra hSome
      rcases Option.ne_none_iff_exists'.mp hSome with
        ⟨n, hUnacked⟩
      exact hOutside (SendPc.inAcked_of_unacked? hUnacked)
    · exact hCleared.congr hConfig.selectiveRepeat
        (by rw [window_recvHandlerStep hInside hStep])
        (ackedSeqSet_recvHandlerStep hInside hStep) hPc
  · have hKeeps := step_keeps hStep hRecv
    exact hCleared.congr hKeeps.selectiveRepeat
      hKeeps.lowerBound hKeeps.ackedSeqSet hPc

/- A number that has passed both checks is not taken. -/
theorem Cleared.not_taken
    {s : Sender}
    {n : Nat}
    (hCleared : Cleared s)
    (hGuarded : MutexesGuarded s)
    (hInWindow : s.sendPc.inWindow? = some n) :
    ¬ s.Taken n := by
  have hUnacked := SendPc.unacked?_of_inWindow? hInWindow
  rintro (hPassed | hAhead)
  · exact absurd (hCleared.lower n hInWindow)
      (not_le.mpr hPassed)
  split_ifs at hAhead with hMode
  · exact hCleared.acked n hUnacked hMode hAhead
  · rcases hAhead with ⟨packet, hPacket, _⟩
    have hInside : s.recvPc.InAcked := by
      cases hPc : s.recvPc
      all_goals rw [hPc] at hPacket
      case compare | less | setLower => trivial
      all_goals cases hPacket
    have hSame :=
      @Mutexes.Guarded.exclusive Thread _ _
        hGuarded.acked .sendHandler .recvHandler
        (SendPc.inAcked_of_unacked? hUnacked) hInside
    cases hSame

end Sender

end Nkurdt
