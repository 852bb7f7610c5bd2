import Nkurdt.Sender.Numbers

/-
  No packet is forgotten.

  A number in the window that is not acknowledged is
  outstanding. It is in the hands of `send_packet`, or its
  packet is in the pool and the number is queued, watched by
  the timer, or in the hands of `send_handler`. Each thread
  hands a number on before it lets go of it.

  Main declarations:
    * `Sender.Outstanding`
    * `Sender.Scheduled`
    * `Sender.Accounted`
    * `Sender.accounted_step`
    * `Sender.outstanding_scheduled`
-/

------------------------------------------------------------
-- Outstanding Numbers
------------------------------------------------------------

namespace Nkurdt

/-
  The number that `send_handler` holds between its pop and
  its registration.
-/
def SendPc.held? : SendPc → Option Nat
| .lockPool seq => some seq
| .lockAcked seq => some seq
| .checkAcked seq => some seq
| .checkLower seq => some seq
| .readLower seq => some seq
| .readUpper seq _ => some seq
| .retry seq => some seq
| .transmit seq => some seq
| .register seq => some seq
| _ => none

/- The branch for a number whose retries are used up. -/
def SendPc.Exhausting : SendPc → Prop
| .lockState _ => True
| .exhausted _ => True
| .unlockState _ => True
| _ => False

/- Not at a point that the invariant mentions. -/
def SendPc.Plain : SendPc → Prop
| .readUpper _ _ => False
| .lockState _ => False
| .exhausted _ => False
| .unlockState _ => False
| .removeEvent _ => False
| _ => True

/- The go-back-n branch of `recv_handler`. -/
def RecvPc.InGoBackN : RecvPc → Prop
| .compare _ => True
| .fastLower _ => True
| .fastUpper _ _ => True
| .lockQueue _ _ _ => True
| .pushAll _ _ _ => True
| .unlockQueue _ => True
| .countDup _ => True
| .less _ => True
| .setLower _ => True
| .eraseAck _ => True
| _ => False

namespace Sender

/- In the window and not acknowledged. -/
def Outstanding (s : Sender) (n : Nat) : Prop :=
  s.window.lowerBound ≤ n ∧ n < s.window.upperBound ∧
    ¬ (s.selectiveRepeat = true ∧ n ∈ s.ackedSeqSet)

/- Still held by the `send_packet` that allocated it. -/
def HeldBySendPacket (s : Sender) (n : Nat) : Prop :=
  ∃ t, s.callerPc.allocated? = some (t, n)

/- On its way to a transmission. -/
def Scheduled (s : Sender) (n : Nat) : Prop :=
  n ∈ s.pendingQueue ∨ s.timer.Watched n ∨
    s.sendPc.held? = some n

/- Nothing fails: no retries used up, no end, no wrap. -/
structure Faultless (s s' : Sender) : Prop where
  exhausted : s'.history.exhausted = []
  running : s'.running = true
  wrap : NoWrap s s'

instance (s s' : Sender) : Decidable (Faultless s s') :=
  decidable_of_iff
    (s'.history.exhausted = [] ∧ s'.running = true ∧
      NoWrap s s')
    ⟨fun hAll => ⟨hAll.1, hAll.2.1, hAll.2.2⟩,
      fun hGood => ⟨hGood.exhausted, hGood.running,
        hGood.wrap⟩⟩

end Sender

end Nkurdt

------------------------------------------------------------
-- Accounted Numbers
------------------------------------------------------------

namespace Nkurdt

namespace Sender

/-
  The invariant: an outstanding number is scheduled, or it
  has been written off, as a number may be whose retries are
  used up. The auxiliary parts concern the moments at which a
  number changes hands: a packet about to be queued is in the
  pool, a bound that was read is not too large, and an event
  about to be removed is safe elsewhere.
-/
structure Accounted
    (writtenOff : Sender → Nat → Prop)
    (s : Sender) : Prop where
  originals : Originals s
  kept :
    ∀ n, s.Outstanding n →
      s.HeldBySendPacket n ∨
        s.packetPool n ≠ none ∧
          (s.Scheduled n ∨ writtenOff s n)
  pushing :
    ∀ t seq, s.callerPc = .push t seq →
      s.Outstanding seq → s.packetPool seq ≠ none
  lowerRead :
    ∀ seq lower, s.sendPc = .readUpper seq lower →
      lower ≤ s.window.lowerBound
  removing :
    ∀ seq, s.sendPc = .removeEvent seq →
      s.Outstanding seq →
        s.HeldBySendPacket seq ∨ seq ∈ s.pendingQueue
  goBackN :
    s.recvPc.InGoBackN → s.selectiveRepeat = false

theorem accounted_fresh
    (writtenOff : Sender → Nat → Prop)
    (config : SenderConfig) :
    Accounted writtenOff (fresh config) := by
  refine ⟨originals_fresh config, ?_, ?_, ?_, ?_, ?_⟩
  · intro n hOutstanding
    exact absurd hOutstanding.2.1 (Nat.not_lt_zero n)
  · exact fun _ _ hPc => by cases hPc
  · exact fun _ _ hPc => by cases hPc
  · exact fun _ hPc => by cases hPc
  · exact fun hGoBackN => hGoBackN.elim

end Sender

end Nkurdt

------------------------------------------------------------
-- Steps of the Caller
------------------------------------------------------------

namespace Nkurdt

namespace Sender

variable {writtenOff : Sender → Nat → Prop}

/-
  A step of the caller that hands nothing over: what was
  scheduled stays so, and nothing becomes outstanding.
-/
theorem accounted_of_callerKeeps
    {s s' : Sender}
    (hAccounted : Accounted writtenOff s)
    (hKeeps : CallerKeeps s s')
    (hOriginals : Originals s')
    (hUpper : s'.window.upperBound = s.window.upperBound)
    (hPool : s'.packetPool = s.packetPool)
    (hQueue : s'.pendingQueue = s.pendingQueue)
    (hHeld :
      ∀ n, s.HeldBySendPacket n → s'.HeldBySendPacket n)
    (hPushing :
      ∀ t seq, s'.callerPc ≠ .push t seq)
    (hWrittenOff :
      ∀ n, s.Outstanding n → writtenOff s n →
        writtenOff s' n) :
    Accounted writtenOff s' := by
  have hOutstanding :
      ∀ n, s'.Outstanding n → s.Outstanding n := by
    intro n hNew
    unfold Outstanding at hNew ⊢
    rw [hKeeps.lowerBound, hUpper, hKeeps.selectiveRepeat,
      hKeeps.ackedSeqSet] at hNew
    exact hNew
  refine ⟨hOriginals, ?_, ?_, ?_, ?_, ?_⟩
  · intro n hNew
    have hBefore := hOutstanding n hNew
    rcases hAccounted.kept n hBefore with
      hOld | ⟨hPooled, hScheduled⟩
    · exact Or.inl (hHeld n hOld)
    · refine Or.inr ⟨?_, ?_⟩
      · rw [hPool]
        exact hPooled
      · refine hScheduled.imp ?_ (hWrittenOff n hBefore)
        unfold Scheduled
        rw [hQueue, hKeeps.watched, hKeeps.sendPc]
        exact fun hOld => hOld
  · intro t seq hPc
    exact absurd hPc (hPushing t seq)
  · intro seq lower hPc
    rw [hKeeps.sendPc] at hPc
    rw [hKeeps.lowerBound]
    exact hAccounted.lowerRead seq lower hPc
  · intro seq hPc hNew
    rw [hKeeps.sendPc] at hPc
    rw [hQueue]
    exact (hAccounted.removing seq hPc
      (hOutstanding seq hNew)).imp_left (hHeld seq)
  · rw [hKeeps.recvPc, hKeeps.selectiveRepeat]
    exact hAccounted.goBackN

theorem accounted_callerStep
    {s s' : Sender}
    (hAccounted : Accounted writtenOff s)
    (hStep : s.callerStep = some s')
    (hWrap : NoWrap s s')
    (hWrittenOff :
      ∀ n, s.Outstanding n → writtenOff s n →
        writtenOff s' n) :
    Accounted writtenOff s' := by
  have hKeeps := callerStep_keeps hStep
  have hOriginals :=
    originals_callerStep hAccounted.originals hStep hWrap
  have hNothingHeld :
      s.callerPc.allocated? = none →
        ∀ n, s.HeldBySendPacket n →
          s'.HeldBySendPacket n := by
    intro hNone n hHeld
    rcases hHeld with ⟨t, hSome⟩
    rw [hNone] at hSome
    cases hSome
  have hFixed := hStep
  unfold callerStep at hStep
  cases hPc : s.callerPc with
  | updateUpper t seq =>
      have hBuilding :=
        originals_updateUpper hAccounted.originals hPc hFixed
          hWrap
      have hSeq := hAccounted.originals.reserved t seq hPc
      have hOutstanding :
          ∀ n, n ≠ seq →
            s'.Outstanding n → s.Outstanding n := by
        intro n hOther hNew
        unfold Outstanding at hNew ⊢
        rw [hKeeps.lowerBound, hBuilding.2.1,
          hKeeps.selectiveRepeat, hKeeps.ackedSeqSet] at hNew
        exact ⟨hNew.1, by omega, hNew.2.2⟩
      simp only [hPc, whenFree_eq_some] at hStep
      rcases hStep with ⟨_, rfl⟩
      refine
        { hAccounted with
          originals := hOriginals
          kept := ?_
          pushing := fun _ _ hPush => by cases hPush
          removing := ?_ }
      · intro n hNew
        by_cases hNumber : n = seq
        · exact Or.inl ⟨t, by rw [hNumber]; rfl⟩
        · have hBefore := hOutstanding n hNumber hNew
          rcases hAccounted.kept n hBefore with
              ⟨t', hOld⟩ | hOld
          · rw [hPc] at hOld
            cases hOld
          · exact Or.inr (hOld.imp_right
              (Or.imp_right (hWrittenOff n hBefore)))
      · intro n hRemove hNew
        by_cases hNumber : n = seq
        · exact Or.inl ⟨t, by rw [hNumber]; rfl⟩
        · rcases hAccounted.removing n hRemove
            (hOutstanding n hNumber hNew) with
              ⟨t', hOld⟩ | hOld
          · rw [hPc] at hOld
            cases hOld
          · exact Or.inr hOld
  | lockPool t seq =>
      have hSame :=
        packets_callerStep hFixed
          (by simp [hPc]) (by simp [hPc])
      have hQueue :=
        pendingQueue_callerStep hFixed (by simp [hPc])
      simp only [hPc, whenFree_eq_some] at hStep
      rcases hStep with ⟨_, rfl⟩
      apply accounted_of_callerKeeps hAccounted hKeeps
        hOriginals hSame.1 hSame.2.2 hQueue
      · intro n hHeld
        unfold HeldBySendPacket at hHeld ⊢
        rw [hPc] at hHeld
        exact hHeld
      · exact fun _ _ hPush => by cases hPush
      · exact hWrittenOff
  | emplace t seq =>
      simp only [hPc, Option.some.injEq] at hStep
      subst hStep
      have hPool :
          ∀ n, s.packetPool n ≠ none →
            s.packetPool.emplace seq (t.packet seq) n ≠
              none := by
        intro n hOld
        rw [UnorderedMap.emplace_apply]
        split_ifs
        · exact Option.some_ne_none _
        · exact hOld
      have hHeld :
          ∀ n, s.HeldBySendPacket n →
            ∃ t', (CallerPc.push t seq).allocated? =
              some (t', n) := by
        intro n hOld
        unfold HeldBySendPacket at hOld
        rw [hPc] at hOld
        exact hOld
      refine
        { hAccounted with
          originals := hOriginals
          kept := ?_
          pushing := ?_
          removing := ?_ }
      · intro n hNew
        exact (hAccounted.kept n hNew).imp (hHeld n)
          (And.imp (hPool n)
            (Or.imp_right (hWrittenOff n hNew)))
      · intro t' seq' hPush _
        cases hPush
        dsimp only
        rw [UnorderedMap.emplace_apply, if_pos rfl]
        exact Option.some_ne_none _
      · intro n hRemove hNew
        exact (hAccounted.removing n hRemove hNew).imp_left
          (hHeld n)
  | push t seq =>
      simp only [hPc, whenFree_eq_some] at hStep
      rcases hStep with ⟨_, rfl⟩
      have hNumber :
          ∀ n, s.HeldBySendPacket n → n = seq := by
        intro n hHeld
        rcases hHeld with ⟨t', hSome⟩
        rw [hPc] at hSome
        exact (Prod.mk.inj (Option.some.inj hSome)).2.symm
      refine
        { hAccounted with
          originals := hOriginals
          kept := ?_
          pushing := fun _ _ hPush => by cases hPush
          removing := ?_ }
      · intro n hNew
        refine Or.inr ?_
        rcases hAccounted.kept n hNew with
          hHeld | ⟨hPooled, hScheduled⟩
        · rw [hNumber n hHeld] at hNew ⊢
          exact ⟨hAccounted.pushing t seq hPc hNew,
            Or.inl (Or.inl (ConcurrentQueue.mem_push.mpr
              (Or.inr rfl)))⟩
        · refine ⟨hPooled, hScheduled.imp ?_
            (hWrittenOff n hNew)⟩
          exact Or.imp_left (fun hMember =>
            ConcurrentQueue.mem_push.mpr (Or.inl hMember))
      · intro n hRemove hNew
        refine Or.inr (ConcurrentQueue.mem_push.mpr ?_)
        rcases hAccounted.removing n hRemove hNew with
          hHeld | hMember
        · exact Or.inr (hNumber n hHeld)
        · exact Or.inl hMember
  | _ =>
      have hSame :=
        packets_callerStep hFixed
          (by simp [hPc]) (by simp [hPc])
      have hQueue :=
        pendingQueue_callerStep hFixed (by simp [hPc])
      have hNext :=
        (transfer?_callerStep hFixed (by simp [hPc])).2.1
      apply accounted_of_callerKeeps hAccounted hKeeps
        hOriginals hSame.1 hSame.2.2 hQueue
      · exact hNothingHeld (by rw [hPc]; rfl)
      · intro t seq hPush
        have hAllocated := hNext t seq (by rw [hPush]; rfl)
        rw [hPc] at hAllocated
        cases hAllocated
      · exact hWrittenOff

end Sender

end Nkurdt

------------------------------------------------------------
-- Steps of the Send Handler
------------------------------------------------------------

namespace Nkurdt

namespace Sender

variable {writtenOff : Sender → Nat → Prop}

/- What is outstanding depends on three fields only. -/
theorem outstanding_of_same
    {s s' : Sender}
    {n : Nat}
    (hWindow : s'.window = s.window)
    (hMode : s'.selectiveRepeat = s.selectiveRepeat)
    (hAcked : s'.ackedSeqSet = s.ackedSeqSet)
    (hNew : s'.Outstanding n) :
    s.Outstanding n := by
  unfold Outstanding at hNew ⊢
  rw [hWindow, hMode, hAcked] at hNew
  exact hNew

/- A wake-up leaves `send_packet` its number. -/
theorem heldBySendPacket_of_wake
    {s s' : Sender}
    {n : Nat}
    (hCaller :
      s'.callerPc = s.callerPc ∨
        s'.callerPc = wake s.callerPc)
    (hHeld : s.HeldBySendPacket n) :
    s'.HeldBySendPacket n := by
  unfold HeldBySendPacket at hHeld ⊢
  rw [(transfer?_of_wake hCaller).2.1]
  exact hHeld

/- A wake-up does not bring the caller to the queue. -/
theorem push_of_wake
    {pc pc' : CallerPc}
    {t : Transfer}
    {seq : Nat}
    (hWake : pc' = pc ∨ pc' = wake pc)
    (hPush : pc' = .push t seq) :
    pc = .push t seq := by
  rcases hWake with rfl | rfl
  · exact hPush
  · cases pc with
    | wait r => cases hPush
    | _ => exact hPush

/- What is in one of the three places is scheduled. -/
theorem Scheduled.queued
    {s : Sender}
    {n : Nat}
    (hQueued : n ∈ s.pendingQueue) :
    s.Scheduled n :=
  Or.inl hQueued

theorem Scheduled.watched
    {s : Sender}
    {n : Nat}
    (hWatched : s.timer.Watched n) :
    s.Scheduled n :=
  Or.inr (Or.inl hWatched)

theorem Scheduled.inHand
    {s : Sender}
    {n : Nat}
    (hHeld : s.sendPc.held? = some n) :
    s.Scheduled n :=
  Or.inr (Or.inr hHeld)

/-
  What a step of `send_handler` has to do with outstanding
  numbers: keep their packets, and hand each number on from
  the place where it is.
-/
theorem accounted_of_sendHandlerKeeps
    {s s' : Sender}
    (hAccounted : Accounted writtenOff s)
    (hKeeps : SendHandlerKeeps s s')
    (hOriginals : Originals s')
    (hPool :
      ∀ n, s.Outstanding n → s.packetPool n ≠ none →
        s'.packetPool n ≠ none)
    (hQueued :
      ∀ n, n ∈ s.pendingQueue → s'.Scheduled n)
    (hWatched :
      ∀ n, s.Outstanding n → s.timer.Watched n →
        s'.Scheduled n ∨ s.HeldBySendPacket n)
    (hInHand :
      ∀ n, s.Outstanding n → s.sendPc.held? = some n →
        s'.Scheduled n ∨ s.HeldBySendPacket n ∨
          writtenOff s' n)
    (hWrittenOff :
      ∀ n, s.Outstanding n → writtenOff s n →
        writtenOff s' n)
    (hLowerRead :
      ∀ seq lower, s'.sendPc = .readUpper seq lower →
        lower ≤ s.window.lowerBound)
    (hRemoving :
      ∀ seq, s'.sendPc = .removeEvent seq →
        s.Outstanding seq → s.HeldBySendPacket seq) :
    Accounted writtenOff s' := by
  have hOutstanding :
      ∀ n, s'.Outstanding n → s.Outstanding n :=
    fun _ => outstanding_of_same hKeeps.window
      hKeeps.selectiveRepeat hKeeps.ackedSeqSet
  have hHeld :
      ∀ n, s.HeldBySendPacket n → s'.HeldBySendPacket n :=
    fun _ => heldBySendPacket_of_wake hKeeps.callerPc
  have hPlaced :
      ∀ n, s.Outstanding n →
        s.Scheduled n ∨ writtenOff s n →
          s'.Scheduled n ∨ s.HeldBySendPacket n ∨
            writtenOff s' n := by
    intro n hOld hBefore
    rcases hBefore with
      (hThere | hThere | hThere) | hLost
    · exact Or.inl (hQueued n hThere)
    · exact (hWatched n hOld hThere).imp_right Or.inl
    · exact hInHand n hOld hThere
    · exact Or.inr (Or.inr (hWrittenOff n hOld hLost))
  refine ⟨hOriginals, ?_, ?_, ?_, ?_, ?_⟩
  · intro n hNew
    have hOld := hOutstanding n hNew
    rcases hAccounted.kept n hOld with
      hBefore | ⟨hPooled, hBefore⟩
    · exact Or.inl (hHeld n hBefore)
    · rcases hPlaced n hOld hBefore with
        hAfter | hSelf | hLost
      · exact Or.inr ⟨hPool n hOld hPooled, Or.inl hAfter⟩
      · exact Or.inl (hHeld n hSelf)
      · exact Or.inr ⟨hPool n hOld hPooled, Or.inr hLost⟩
  · intro t seq hPush hNew
    have hOld := hOutstanding seq hNew
    exact hPool seq hOld
      (hAccounted.pushing t seq
        (push_of_wake hKeeps.callerPc hPush) hOld)
  · intro seq lower hPc
    rw [hKeeps.window]
    exact hLowerRead seq lower hPc
  · intro seq hPc hNew
    exact Or.inl (hHeld seq
      (hRemoving seq hPc (hOutstanding seq hNew)))
  · rw [hKeeps.recvPc, hKeeps.selectiveRepeat]
    exact hAccounted.goBackN

/- A step that moves nothing and removes no event. -/
theorem accounted_of_sendHandlerQuiet
    {s s' : Sender}
    (hAccounted : Accounted writtenOff s)
    (hKeeps : SendHandlerKeeps s s')
    (hOriginals : Originals s')
    (hPool : s'.packetPool = s.packetPool)
    (hQueue : s'.pendingQueue = s.pendingQueue)
    (hTimer : s'.timer = s.timer)
    (hWrittenOff :
      ∀ n, s.Outstanding n → writtenOff s n →
        writtenOff s' n)
    (hInHand :
      ∀ n, s.Outstanding n → s.sendPc.held? = some n →
        s'.Scheduled n ∨ s.HeldBySendPacket n ∨
          writtenOff s' n)
    (hPlain : s'.sendPc.Plain ∨ s'.sendPc.Exhausting) :
    Accounted writtenOff s' := by
  refine accounted_of_sendHandlerKeeps hAccounted hKeeps
    hOriginals ?_ ?_ ?_ hInHand hWrittenOff ?_ ?_
  · intro n _ hPooled
    rw [hPool]
    exact hPooled
  · intro n hQueued
    exact .queued (by rw [hQueue]; exact hQueued)
  · intro n _ hWatched
    exact Or.inl (.watched (by rw [hTimer]; exact hWatched))
  · intro seq lower hPc
    rw [hPc] at hPlain
    exact (hPlain.elim id id).elim
  · intro seq hPc
    rw [hPc] at hPlain
    exact (hPlain.elim id id).elim

/- Such a step that keeps its hands as they are. -/
theorem accounted_of_sendHandlerHolds
    {s s' : Sender}
    (hAccounted : Accounted writtenOff s)
    (hKeeps : SendHandlerKeeps s s')
    (hOriginals : Originals s')
    (hPool : s'.packetPool = s.packetPool)
    (hQueue : s'.pendingQueue = s.pendingQueue)
    (hTimer : s'.timer = s.timer)
    (hWrittenOff :
      ∀ n, s.Outstanding n → writtenOff s n →
        writtenOff s' n)
    (hSame : s'.sendPc.held? = s.sendPc.held?)
    (hPlain : s'.sendPc.Plain ∨ s'.sendPc.Exhausting) :
    Accounted writtenOff s' := by
  refine accounted_of_sendHandlerQuiet hAccounted hKeeps
    hOriginals hPool hQueue hTimer hWrittenOff ?_ hPlain
  intro n _ hInHand
  exact Or.inl (.inHand (hSame.trans hInHand))

/- Cleaning up a number that is not outstanding. -/
theorem accounted_cleanUp
    {s : Sender}
    {seq : Nat}
    (hAccounted : Accounted writtenOff s)
    (hKeeps : SendHandlerKeeps s (s.cleanUp seq))
    (hOriginals : Originals (s.cleanUp seq))
    (hWrittenOff :
      ∀ n, s.Outstanding n → writtenOff s n →
        writtenOff (s.cleanUp seq) n)
    (hHeld : s.sendPc.held? = some seq)
    (hDone : ¬ s.Outstanding seq) :
    Accounted writtenOff (s.cleanUp seq) := by
  have hOther : ∀ n, s.Outstanding n → n ≠ seq := by
    intro n hOutstanding hNumber
    exact hDone (hNumber ▸ hOutstanding)
  refine accounted_of_sendHandlerKeeps hAccounted hKeeps
    hOriginals ?_ (fun _ hQueued => .queued hQueued)
    (fun _ _ hWatched => Or.inl (.watched hWatched)) ?_
    hWrittenOff (fun _ _ hPc => by cases hPc) ?_
  · intro n hOutstanding hPooled
    unfold cleanUp
    dsimp only
    rw [UnorderedMap.erase_apply,
      if_neg (hOther n hOutstanding)]
    exact hPooled
  · intro n hOutstanding hSelf
    rw [hHeld] at hSelf
    exact absurd (Option.some.inj hSelf).symm
      (hOther n hOutstanding)
  · intro n hPc hOutstanding
    cases hPc
    exact absurd hOutstanding hDone

/-
  A number whose retries are found used up leaves the hands
  of `send_handler` in this step, and then it is elsewhere or
  written off.
-/
theorem accounted_sendHandlerStep
    {s s' : Sender}
    (hAccounted : Accounted writtenOff s)
    (hStep : s.sendHandlerStep = some s')
    (hWrittenOff :
      ∀ n, s.Outstanding n → writtenOff s n →
        writtenOff s' n)
    (hUsedUp :
      ∀ seq,
        s'.history.exhausted =
          s.history.exhausted ++ [seq] →
        s.Outstanding seq →
          s.HeldBySendPacket seq ∨ seq ∈ s.pendingQueue ∨
            s.timer.Watched seq ∨ writtenOff s' seq) :
    Accounted writtenOff s' := by
  have hKeeps := sendHandlerStep_keeps hStep
  have hOriginals :=
    originals_sendHandlerStep hAccounted.originals hStep
  cases sendHandlerStep_branch hStep with
  | pops hPc hPop =>
      refine accounted_of_sendHandlerKeeps hAccounted hKeeps
        hOriginals (fun _ _ hPooled => hPooled) ?_
        (fun _ _ hWatched => Or.inl (.watched hWatched)) ?_
        hWrittenOff (fun _ _ hNext => by cases hNext)
        (fun _ hNext => by cases hNext)
      · intro n hQueued
        rcases (ConcurrentQueue.mem_of_pop? hPop).mp
          hQueued with rfl | hRest
        · exact .inHand rfl
        · exact .queued hRest
      · intro n _ hHeld
        rw [hPc] at hHeld
        cases hHeld
  | cleansAcked hPc hAcked =>
      exact accounted_cleanUp hAccounted hKeeps hOriginals
        hWrittenOff (by rw [hPc]; rfl)
        (fun hOutstanding => hOutstanding.2.2 hAcked)
  | cleansBelow hPc hBelow =>
      exact accounted_cleanUp hAccounted hKeeps hOriginals
        hWrittenOff (by rw [hPc]; rfl)
        (fun hOutstanding =>
          absurd hOutstanding.1 (not_le.mpr hBelow))
  | readsLower hPc =>
      refine accounted_of_sendHandlerKeeps hAccounted hKeeps
        hOriginals (fun _ _ hPooled => hPooled)
        (fun _ hQueued => .queued hQueued)
        (fun _ _ hWatched => Or.inl (.watched hWatched)) ?_
        hWrittenOff ?_ (fun _ hNext => by cases hNext)
      · intro n _ hHeld
        rw [hPc] at hHeld
        exact Or.inl (.inHand hHeld)
      · intro seq lower hNext
        cases hNext
        exact le_rfl
  | findsEmpty hPc hEmpty =>
      have hRead := hAccounted.lowerRead _ _ hPc
      refine accounted_of_sendHandlerQuiet hAccounted hKeeps
        hOriginals rfl rfl rfl hWrittenOff ?_
        (Or.inl trivial)
      -- The window was empty: nothing is outstanding.
      intro n hOutstanding _
      have hLow := hOutstanding.1
      have hHigh := hOutstanding.2.1
      omega
  | @usesUp seq _ hPc =>
      refine accounted_of_sendHandlerQuiet hAccounted hKeeps
        hOriginals rfl rfl rfl hWrittenOff ?_
        (Or.inr trivial)
      intro n hOutstanding hHeld
      rw [hPc] at hHeld
      cases hHeld
      rcases hUsedUp seq rfl hOutstanding with
        hSelf | hQueued | hWatched | hLost
      · exact Or.inr (Or.inl hSelf)
      · exact Or.inl (.queued hQueued)
      · exact Or.inl (.watched hWatched)
      · exact Or.inr (Or.inr hLost)
  | @findsNone seq hPc hAbsent =>
      have hMissing :
          s.Outstanding seq → s.HeldBySendPacket seq := by
        intro hOutstanding
        rcases hAccounted.kept seq hOutstanding with
          hHeld | ⟨hPooled, _⟩
        · exact hHeld
        · exact absurd hAbsent hPooled
      refine accounted_of_sendHandlerKeeps hAccounted hKeeps
        hOriginals (fun _ _ hPooled => hPooled)
        (fun _ hQueued => .queued hQueued)
        (fun _ _ hWatched => Or.inl (.watched hWatched)) ?_
        hWrittenOff (fun _ _ hNext => by cases hNext) ?_
      · intro n hOutstanding hHeld
        rw [hPc] at hHeld
        cases hHeld
        exact Or.inr (Or.inl (hMissing hOutstanding))
      · intro n hNext hOutstanding
        cases hNext
        exact hMissing hOutstanding
  | registers hPc =>
      refine accounted_of_sendHandlerKeeps hAccounted hKeeps
        hOriginals (fun _ _ hPooled => hPooled)
        (fun _ hQueued => .queued hQueued) ?_ ?_ hWrittenOff
        (fun _ _ hNext => by cases hNext)
        (fun _ hNext => by cases hNext)
      · intro n _ hWatched
        exact Or.inl (.watched
          (ConcurrentTimer.watched_registerEvent.mpr
            (Or.inl hWatched)))
      · intro n _ hHeld
        rw [hPc] at hHeld
        cases hHeld
        exact Or.inl (.watched
          (ConcurrentTimer.watched_registerEvent.mpr
            (Or.inr rfl)))
  | @removes seq hPc =>
      refine accounted_of_sendHandlerKeeps hAccounted hKeeps
        hOriginals (fun _ _ hPooled => hPooled)
        (fun _ hQueued => .queued hQueued) ?_ ?_ hWrittenOff
        (fun _ _ hNext => by cases hNext)
        (fun _ hNext => by cases hNext)
      · intro n hOutstanding hWatched
        by_cases hNumber : n = seq
        · subst hNumber
          exact (hAccounted.removing n hPc
            hOutstanding).symm.imp_left
              (fun hQueued => .queued hQueued)
        · exact Or.inl (.watched
            (ConcurrentTimer.watched_removeEvent hNumber
              hWatched))
      · intro n _ hHeld
        rw [hPc] at hHeld
        cases hHeld
  | locksState hPc | failsTransfer hPc =>
      exact accounted_of_sendHandlerHolds hAccounted hKeeps
        hOriginals rfl rfl rfl hWrittenOff
        (by rw [hPc]; rfl) (Or.inr trivial)
  | failsConnection hPc | breaks hPc =>
      exact accounted_of_sendHandlerHolds hAccounted hKeeps
        hOriginals rfl rfl rfl hWrittenOff
        (by rw [hPc]; rfl) (Or.inr trivial)
  | _ hPc =>
      exact accounted_of_sendHandlerHolds hAccounted hKeeps
        hOriginals rfl rfl rfl hWrittenOff
        (by rw [hPc]; rfl) (Or.inl trivial)

end Sender

end Nkurdt

------------------------------------------------------------
-- Steps of the Other Threads
------------------------------------------------------------

namespace Nkurdt

namespace Sender

variable {writtenOff : Sender → Nat → Prop}

/- No step of `recv_handler` makes a number outstanding. -/
theorem outstanding_recvHandlerStep
    {s s' : Sender}
    {n : Nat}
    (hGoBackN :
      s.recvPc.InGoBackN → s.selectiveRepeat = false)
    (hStep : s.recvHandlerStep = some s')
    (hWrap : NoWrap s s')
    (hNew : s'.Outstanding n) :
    s.Outstanding n := by
  have hLower := hWrap.lower
  have hKeeps := recvHandlerStep_keeps hStep
  unfold Outstanding at hNew ⊢
  rw [hKeeps.upperBound, hKeeps.selectiveRepeat] at hNew
  refine ⟨hLower.trans hNew.1, hNew.2.1, ?_⟩
  intro hAcked
  apply hNew.2.2
  refine ⟨hAcked.1, ?_⟩
  have hMember := hAcked.2
  cases recvHandlerStep_branch hStep with
  | insertsToSlide | insertsToCompare =>
      exact Finset.mem_insert_of_mem hMember
  | erases hPc =>
      rw [hGoBackN (by rw [hPc]; trivial)] at hAcked
      exact absurd hAcked.1 Bool.false_ne_true
  | slides =>
      have hUpdate := SequenceNumber.update_of_le hLower
      have hLow : SequenceNumber.update s.window.lowerBound ≤ n :=
        hNew.1
      exact Finset.mem_erase.mpr ⟨by omega, hMember⟩
  | _ => exact hMember

/- `recv_handler` queues numbers and never takes one. -/
theorem mem_pendingQueue_recvHandlerStep
    {s s' : Sender}
    {n : Nat}
    (hStep : s.recvHandlerStep = some s')
    (hQueued : n ∈ s.pendingQueue) :
    n ∈ s'.pendingQueue := by
  cases recvHandlerStep_branch hStep with
  | pushes =>
      exact ConcurrentQueue.mem_pushAll.mpr (Or.inl hQueued)
  | _ => exact hQueued

/- The go-back-n branch is entered in go-back-n only. -/
theorem inGoBackN_recvHandlerStep
    {s s' : Sender}
    (hGoBackN :
      s.recvPc.InGoBackN → s.selectiveRepeat = false)
    (hStep : s.recvHandlerStep = some s')
    (hNext : s'.recvPc.InGoBackN) :
    s'.selectiveRepeat = false := by
  rw [(recvHandlerStep_keeps hStep).selectiveRepeat]
  cases recvHandlerStep_branch hStep with
  | insertsToCompare _ hMode => exact hMode
  | _ hPc =>
      first
        | exact hNext.elim
        | exact hGoBackN (by rw [hPc]; trivial)

/-
  `timeout_handler` moves the numbers that timed out to the
  queue; what is still registered stays so.
-/
theorem scheduled_timeoutHandlerStep
    {s s' : Sender}
    {n : Nat}
    (hStep : s.timeoutHandlerStep = some s') :
    (n ∈ s.pendingQueue → n ∈ s'.pendingQueue) ∧
      (s.timer.Watched n →
        n ∈ s'.pendingQueue ∨ s'.timer.Watched n) := by
  cases timeoutHandlerStep_branch hStep with
  | maps =>
      constructor
      · intro hQueued
        exact ConcurrentQueue.mem_pushAll.mpr
          (Or.inl hQueued)
      · intro hWatched
        rcases hWatched with hRegistered | hTimedOut
        · exact Or.inr (Or.inl hRegistered)
        · exact Or.inl
            (ConcurrentQueue.mem_pushAll.mpr
              (Or.inr hTimedOut))
  | _ => exact ⟨fun hQueued => hQueued, Or.inr⟩

/-
  A step of another thread than the caller and
  `send_handler`: nothing is lost from the queue, the timer
  or the pool, and nothing becomes outstanding.
-/
theorem accounted_of_bystander
    {s s' : Sender}
    (hAccounted : Accounted writtenOff s)
    (hOriginals : Originals s')
    (hOutstanding :
      ∀ n, s'.Outstanding n → s.Outstanding n)
    (hLower :
      s.window.lowerBound ≤ s'.window.lowerBound)
    (hCaller :
      s'.callerPc = s.callerPc ∨
        s'.callerPc = wake s.callerPc)
    (hSend : s'.sendPc = s.sendPc)
    (hPool : s'.packetPool = s.packetPool)
    (hQueue :
      ∀ n, n ∈ s.pendingQueue → n ∈ s'.pendingQueue)
    (hWatched :
      ∀ n, s.timer.Watched n →
        n ∈ s'.pendingQueue ∨ s'.timer.Watched n)
    (hGoBackN :
      s'.recvPc.InGoBackN → s'.selectiveRepeat = false)
    (hWrittenOff :
      ∀ n, s.Outstanding n → writtenOff s n →
        writtenOff s' n) :
    Accounted writtenOff s' := by
  have hHeld :
      ∀ n, s.HeldBySendPacket n → s'.HeldBySendPacket n :=
    fun _ => heldBySendPacket_of_wake hCaller
  refine ⟨hOriginals, ?_, ?_, ?_, ?_, hGoBackN⟩
  · intro n hNew
    have hBefore := hOutstanding n hNew
    refine (hAccounted.kept n hBefore).imp (hHeld n) ?_
    intro hKept
    refine ⟨by rw [hPool]; exact hKept.1,
      hKept.2.imp ?_ (hWrittenOff n hBefore)⟩
    unfold Scheduled
    rw [hSend]
    rintro (hQueued | hTimed | hSelf)
    · exact Or.inl (hQueue n hQueued)
    · exact (hWatched n hTimed).imp_right Or.inl
    · exact Or.inr (Or.inr hSelf)
  · intro t seq hPush hNew
    rw [hPool]
    exact hAccounted.pushing t seq
      (push_of_wake hCaller hPush) (hOutstanding seq hNew)
  · intro seq lower hPc
    rw [hSend] at hPc
    exact (hAccounted.lowerRead seq lower hPc).trans hLower
  · intro seq hPc hNew
    rw [hSend] at hPc
    exact (hAccounted.removing seq hPc
      (hOutstanding seq hNew)).imp (hHeld seq) (hQueue seq)

/- Every step keeps every number accounted for. -/
theorem accounted_step
    {s s' : Sender}
    {action : Action}
    (hAccounted : Accounted writtenOff s)
    (hStep : s.step action = some s')
    (hWrap : NoWrap s s')
    (hWrittenOff :
      ∀ n, s.Outstanding n → writtenOff s n →
        writtenOff s' n)
    (hUsedUp :
      ∀ seq,
        s'.history.exhausted =
          s.history.exhausted ++ [seq] →
        s.Outstanding seq →
          s.HeldBySendPacket seq ∨ seq ∈ s.pendingQueue ∨
            s.timer.Watched seq ∨ writtenOff s' seq) :
    Accounted writtenOff s' := by
  have hOriginals :=
    originals_step hAccounted.originals hStep hWrap
  cases action with
  | call call =>
      have hKeeps := callStep_keeps hStep
      refine accounted_of_callerKeeps hAccounted
        hKeeps.toCallerKeeps hOriginals hKeeps.upperBound
        hKeeps.packetPool hKeeps.pendingQueue ?_ ?_
        hWrittenOff
      · rintro n ⟨t, hHeld⟩
        rw [hKeeps.idle] at hHeld
        cases hHeld
      · intro t seq hPush
        have hNone := hKeeps.allocated
        rw [hPush] at hNone
        cases hNone
  | thread thread =>
      cases thread with
      | caller =>
          exact accounted_callerStep hAccounted hStep hWrap
            hWrittenOff
      | sendHandler =>
          exact accounted_sendHandlerStep hAccounted hStep
            hWrittenOff hUsedUp
      | recvHandler =>
          have hKeeps := recvHandlerStep_keeps hStep
          exact accounted_of_bystander hAccounted hOriginals
            (fun n hNew =>
              outstanding_recvHandlerStep hAccounted.goBackN
                hStep hWrap hNew)
            hWrap.lower hKeeps.callerPc hKeeps.sendPc
            hKeeps.packetPool
            (fun n hQueued =>
              mem_pendingQueue_recvHandlerStep hStep hQueued)
            (fun n hWatched => by
              rw [hKeeps.timer]
              exact Or.inr hWatched)
            (inGoBackN_recvHandlerStep hAccounted.goBackN
              hStep) hWrittenOff
      | timeoutHandler =>
          have hKeeps := timeoutHandlerStep_keeps hStep
          refine accounted_of_bystander hAccounted hOriginals
            (fun _ => outstanding_of_same hKeeps.window
              hKeeps.selectiveRepeat hKeeps.ackedSeqSet)
            hWrap.lower (Or.inl hKeeps.callerPc)
            hKeeps.sendPc hKeeps.packetPool ?_ ?_ ?_
            hWrittenOff
          · intro n hQueued
            exact (scheduled_timeoutHandlerStep hStep).1
              hQueued
          · intro n hWatched
            exact (scheduled_timeoutHandlerStep hStep).2
              hWatched
          · rw [hKeeps.recvPc, hKeeps.selectiveRepeat]
            exact hAccounted.goBackN
  | recv result =>
      have hKeeps := recvStep_keeps hStep
      refine accounted_of_bystander hAccounted hOriginals
        (fun _ => outstanding_of_same hKeeps.window
          hKeeps.selectiveRepeat hKeeps.ackedSeqSet)
        hWrap.lower hKeeps.callerPc hKeeps.sendPc
        hKeeps.packetPool ?_ ?_ ?_ hWrittenOff
      · intro n hQueued
        rw [hKeeps.pendingQueue]
        exact hQueued
      · intro n hWatched
        rw [hKeeps.timer]
        exact Or.inr hWatched
      · intro hInside
        rcases hKeeps.next with ⟨bytes, hNext⟩ | hNext
        · rw [hNext] at hInside
          exact hInside.elim
        · rw [hNext] at hInside
          exact hInside.elim
  | timer =>
      rcases Option.map_eq_some_iff.mp hStep with
        ⟨timer, hTimer, rfl⟩
      exact accounted_of_bystander hAccounted hOriginals
        (fun _ hNew => hNew) le_rfl (Or.inl rfl) rfl rfl
        (fun _ hQueued => hQueued)
        (fun n hWatched => Or.inr
          (ConcurrentTimer.watched_threadStep hTimer
            hWatched))
        hAccounted.goBackN hWrittenOff
  | tick duration =>
      cases hStep
      exact accounted_of_bystander hAccounted hOriginals
        (fun _ hNew => hNew) le_rfl (Or.inl rfl) rfl rfl
        (fun _ hQueued => hQueued)
        (fun _ hWatched => Or.inr hWatched)
        hAccounted.goBackN hWrittenOff
  | wakeCaller =>
      cases hStep
      exact accounted_of_bystander hAccounted hOriginals
        (fun _ hNew => hNew) le_rfl (Or.inr rfl) rfl rfl
        (fun _ hQueued => hQueued)
        (fun _ hWatched => Or.inr hWatched)
        hAccounted.goBackN hWrittenOff
  | wakeTimer =>
      have hFrame := ConcurrentTimer.notifyOne_frame s.timer
      cases hStep
      refine accounted_of_bystander hAccounted hOriginals
        (fun _ hNew => hNew) le_rfl (Or.inl rfl) rfl rfl
        (fun _ hQueued => hQueued) ?_ hAccounted.goBackN
        hWrittenOff
      intro n hWatched
      refine Or.inr ?_
      unfold ConcurrentTimer.Watched at hWatched ⊢
      dsimp only
      rw [hFrame.2.1, hFrame.2.2.1]
      exact hWatched

end Sender

end Nkurdt

------------------------------------------------------------
-- Faultless Runs
------------------------------------------------------------

namespace Nkurdt

namespace Sender

open Runs

/- The branch for used up retries is entered with a note. -/
theorem exhausting_sendHandlerStep
    {s s' : Sender}
    (hStep : s.sendHandlerStep = some s')
    (hExhausting : s'.sendPc.Exhausting) :
    s.sendPc.Exhausting ∨ s'.history.exhausted ≠ [] := by
  cases sendHandlerStep_branch hStep with
  | usesUp =>
      exact Or.inr (List.append_ne_nil_of_right_ne_nil _
        (List.cons_ne_nil _ _))
  | locksState hPc | failsTransfer hPc | failsConnection hPc =>
      exact Or.inl (by rw [hPc]; trivial)
  | breaks hPc => exact Or.inl (by rw [hPc]; trivial)
  | _ => exact hExhausting.elim

/- Only `send_handler` enters that branch. -/
theorem exhausting_step
    {s s' : Sender}
    {action : Action}
    (hStep : s.step action = some s')
    (hExhausting : s'.sendPc.Exhausting) :
    s.sendPc.Exhausting ∨ s'.history.exhausted ≠ [] := by
  by_cases hSend : action = .thread .sendHandler
  · subst hSend
    exact exhausting_sendHandlerStep hStep hExhausting
  · rw [(sendHandler_of_other hStep hSend).1] at hExhausting
    exact Or.inl hExhausting

/- In a faultless run no number is written off. -/
theorem accounted_of_faultless
    {config : SenderConfig}
    {s : Sender}
    (hReach :
      Reaches step (fun current _ next =>
        Faultless current next) (fresh config) s) :
    Accounted (fun _ _ => False) s := by
  apply hReach.invariant (accounted_fresh _ config)
  intro current action next hCurrent hStep hFaultless
  apply accounted_step hCurrent hStep hFaultless.wrap
  · exact fun _ _ hLost => hLost
  · intro seq hUsedUp
    rw [hFaultless.exhausted] at hUsedUp
    exact absurd hUsedUp.symm
      (List.append_ne_nil_of_right_ne_nil _
        (List.cons_ne_nil _ _))

/-
  No packet is forgotten: in a faultless run an outstanding
  number is in the hands of `send_packet`, or its original
  packet is in the pool and the number is scheduled.
-/
theorem outstanding_scheduled
    {config : SenderConfig}
    {s : Sender}
    (hReach :
      Reaches step (fun current _ next =>
        Faultless current next) (fresh config) s) :
    ∀ n, s.Outstanding n →
      s.HeldBySendPacket n ∨
        ∃ p, s.packetPool n = some p ∧ s.Built n p ∧
          s.Scheduled n := by
  have hAccounted := accounted_of_faultless hReach
  intro n hOutstanding
  refine (hAccounted.kept n hOutstanding).imp_right ?_
  intro hKept
  rcases Option.ne_none_iff_exists'.mp hKept.1 with
    ⟨p, hPool⟩
  exact ⟨p, hPool, hAccounted.originals.pool n p hPool,
    hKept.2.elim id False.elim⟩

/-
  After `connect` has queued its request, the request is
  outstanding, in the pool, and scheduled.
-/
theorem outstanding_scheduled_connect :
    ∃ s : Sender,
      s.Outstanding 0 ∧
        (s.HeldBySendPacket 0 ∨
          ∃ p, s.packetPool 0 = some p ∧ s.Built 0 p ∧
            s.Scheduled 0) := by
  have hRun :
      ∃ s,
        Reaches step (fun current _ next =>
          Faultless current next)
          (fresh ⟨1, 3, 100, true, false⟩) s ∧
        (s.window.lowerBound = 0 ∧ s.window.upperBound = 1 ∧
          ¬ 0 ∈ s.ackedSeqSet) :=
    exists_reaches_of_runActions
      ([Action.call (.connect ⟨0, 1⟩)] ++ steps .caller 9)
      (by decide +kernel)
  rcases hRun with ⟨s, hReach, hLower, hUpper, hAcked⟩
  have hOutstanding : s.Outstanding 0 := by
    refine ⟨hLower.le, ?_, fun hBoth => hAcked hBoth.2⟩
    rw [hUpper]
    exact Nat.zero_lt_one
  exact ⟨s, hOutstanding,
    outstanding_scheduled hReach 0 hOutstanding⟩

end Sender

end Nkurdt
