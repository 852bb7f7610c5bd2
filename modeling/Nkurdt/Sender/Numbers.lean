import Nkurdt.Sender.Packets

/-
  The numbers in circulation.

  The queue, the timer and the handlers pass numbers around.
  All of them have been allocated by `send_packet`: as long
  as the bounds do not wrap around, they are below the upper
  bound.

  Main declarations:
    * `SendPc.number?`
    * `Sender.Allocated`
    * `Sender.allocated_step`
-/

------------------------------------------------------------
-- Allocated Numbers
------------------------------------------------------------

namespace Nkurdt

/- The number that `send_handler` works on. -/
def SendPc.number? : SendPc → Option Nat
| .lockPool seq => some seq
| .lockAcked seq => some seq
| .checkAcked seq => some seq
| .checkLower seq => some seq
| .readLower seq => some seq
| .readUpper seq _ => some seq
| .retry seq => some seq
| .lockState seq => some seq
| .exhausted seq => some seq
| .transmit seq => some seq
| .register seq => some seq
| .removeEvent seq => some seq
| _ => none

/- The end of the range that is about to be queued again. -/
def RecvPc.resendTo? : RecvPc → Option Nat
| .lockQueue _ _ upper => some upper
| .pushAll _ _ upper => some upper
| _ => none

namespace Sender

/- Every number in circulation has been allocated. -/
structure Allocated (s : Sender) : Prop where
  queue : ∀ n ∈ s.pendingQueue, n < s.window.upperBound
  timer :
    ∀ n, s.timer.Mentions n → n < s.window.upperBound
  sending :
    ∀ n, s.sendPc.number? = some n →
      n < s.window.upperBound
  resending :
    ∀ n, s.recvPc.resendTo? = some n →
      n ≤ s.window.upperBound
  exhausted :
    ∀ n ∈ s.history.exhausted, n < s.window.upperBound

theorem allocated_fresh
    (config : SenderConfig) :
    Allocated (fresh config) := by
  refine ⟨?_, ?_, ?_, ?_, ?_⟩
  · exact fun n hQueued =>
      absurd hQueued (OrderedSet.not_mem_empty n)
  · intro n hMentions
    rcases hMentions with ⟨tp, hEntry⟩ | hTimedOut
    · cases hEntry
    · cases hTimedOut
  · exact fun n hNumber => by cases hNumber
  · exact fun n hResend => by cases hResend
  · exact fun n hExhausted => by cases hExhausted

/- No number is new, and the upper bound has not dropped. -/
theorem Allocated.congr
    {s s' : Sender}
    (hAllocated : Allocated s)
    (hUpper : s.window.upperBound ≤ s'.window.upperBound)
    (hQueue :
      ∀ n ∈ s'.pendingQueue, n < s'.window.upperBound)
    (hTimer :
      ∀ n, s'.timer.Mentions n → n < s'.window.upperBound)
    (hSend :
      ∀ n, s'.sendPc.number? = some n →
        n < s'.window.upperBound)
    (hRecv : s'.recvPc = s.recvPc)
    (hExhausted :
      s'.history.exhausted = s.history.exhausted) :
    Allocated s' := by
  refine ⟨hQueue, hTimer, hSend, ?_, ?_⟩
  · intro n hResend
    rw [hRecv] at hResend
    exact (hAllocated.resending n hResend).trans hUpper
  · intro n hMember
    rw [hExhausted] at hMember
    exact (hAllocated.exhausted n hMember).trans_le hUpper

/- Only `push` queues a number. -/
theorem pendingQueue_callerStep
    {s s' : Sender}
    (hStep : s.callerStep = some s')
    (hPush : ∀ t seq, s.callerPc ≠ .push t seq) :
    s'.pendingQueue = s.pendingQueue := by
  cases callerStep_branch hStep with
  | pushes hPc => exact absurd hPc (hPush _ _)
  | _ => rfl

theorem allocated_callerStep
    {s s' : Sender}
    (hAllocated : Allocated s)
    (hOriginals : Originals s)
    (hStep : s.callerStep = some s')
    (hUpper :
      s.window.upperBound ≤ s'.window.upperBound) :
    Allocated s' := by
  have hKeeps := callerStep_keeps hStep
  refine hAllocated.congr hUpper ?_ ?_ ?_ hKeeps.recvPc
    hKeeps.exhausted
  · intro n hQueued
    by_cases hPush : ∃ t seq, s.callerPc = .push t seq
    · rcases hPush with ⟨t, seq, hPc⟩
      have hSeq : seq < s.window.upperBound :=
        hOriginals.lt_upperBound
          (hOriginals.allocated t seq (by rw [hPc]; rfl))
      unfold callerStep at hStep
      simp only [hPc, whenFree_eq_some] at hStep
      rcases hStep with ⟨_, rfl⟩
      rcases ConcurrentQueue.mem_push.mp hQueued with
        hOld | rfl
      · exact hAllocated.queue n hOld
      · exact hSeq
    · rw [pendingQueue_callerStep hStep
        (fun t seq hPc => hPush ⟨t, seq, hPc⟩)] at hQueued
      exact (hAllocated.queue n hQueued).trans_le hUpper
  · intro n hMentions
    exact (hAllocated.timer n
      ((hKeeps.mentions n).mp hMentions)).trans_le hUpper
  · intro n hNumber
    rw [hKeeps.sendPc] at hNumber
    exact (hAllocated.sending n hNumber).trans_le hUpper

/-
  `send_handler` takes its number from the queue and hands
  it to the timer.
-/
theorem origin_sendHandlerStep
    {s s' : Sender}
    {n : Nat}
    (hStep : s.sendHandlerStep = some s') :
    (n ∈ s'.pendingQueue → n ∈ s.pendingQueue) ∧
      (s'.timer.Mentions n →
        s.timer.Mentions n ∨ s.sendPc.number? = some n) ∧
      (s'.sendPc.number? = some n →
        s.sendPc.number? = some n ∨ n ∈ s.pendingQueue) ∧
      (n ∈ s'.history.exhausted →
        n ∈ s.history.exhausted ∨
          s.sendPc.number? = some n) := by
  cases sendHandlerStep_branch hStep with
  | pops _ hPop =>
      refine ⟨?_, Or.inl, ?_, Or.inl⟩
      · exact fun hRest =>
          (ConcurrentQueue.mem_of_pop? hPop).mpr
            (Or.inr hRest)
      · intro hNumber
        cases hNumber
        exact Or.inr ((ConcurrentQueue.mem_of_pop? hPop).mpr
          (Or.inl rfl))
  | usesUp hPc =>
      rw [hPc]
      refine ⟨fun h => h, Or.inl, Or.inl, ?_⟩
      intro hMember
      rcases List.mem_append.mp hMember with hOld | hNew
      · exact Or.inl hOld
      · rw [List.mem_singleton.mp hNew]
        exact Or.inr rfl
  | registers hPc =>
      rw [hPc]
      refine ⟨fun h => h, ?_, (fun h => by cases h), Or.inl⟩
      intro hMentions
      refine (ConcurrentTimer.mentions_of_registerEvent
        hMentions).imp_right ?_
      intro hEqual
      rw [hEqual]
      rfl
  | removes =>
      exact ⟨fun h => h,
        fun hMentions => Or.inl
          (ConcurrentTimer.mentions_of_removeEvent hMentions),
        (fun h => by cases h), Or.inl⟩
  | _ hPc =>
      rw [hPc]
      first
        | exact ⟨fun h => h, Or.inl, Or.inl, Or.inl⟩
        | exact ⟨fun h => h, Or.inl, (fun h => by cases h),
            Or.inl⟩

theorem allocated_sendHandlerStep
    {s s' : Sender}
    (hAllocated : Allocated s)
    (hStep : s.sendHandlerStep = some s') :
    Allocated s' := by
  have hKeeps := sendHandlerStep_keeps hStep
  refine ⟨?_, ?_, ?_, ?_, ?_⟩
  · intro n hQueued
    rw [hKeeps.window]
    exact hAllocated.queue n
      ((origin_sendHandlerStep hStep).1 hQueued)
  · intro n hMentions
    rw [hKeeps.window]
    rcases (origin_sendHandlerStep hStep).2.1 hMentions with
      hOld | hSelf
    · exact hAllocated.timer n hOld
    · exact hAllocated.sending n hSelf
  · intro n hNumber
    rw [hKeeps.window]
    rcases (origin_sendHandlerStep hStep).2.2.1 hNumber with
      hOld | hQueued
    · exact hAllocated.sending n hOld
    · exact hAllocated.queue n hQueued
  · intro n hResend
    rw [hKeeps.recvPc] at hResend
    rw [hKeeps.window]
    exact hAllocated.resending n hResend
  · intro n hExhausted
    rw [hKeeps.window]
    rcases (origin_sendHandlerStep hStep).2.2.2
      hExhausted with hOld | hSelf
    · exact hAllocated.exhausted n hOld
    · exact hAllocated.sending n hSelf

/- `recv_handler` queues the window again. -/
theorem allocated_recvHandlerStep
    {s s' : Sender}
    (hAllocated : Allocated s)
    (hStep : s.recvHandlerStep = some s') :
    Allocated s' := by
  have hKeeps := recvHandlerStep_keeps hStep
  have hResending := hAllocated.resending
  have hParts :
      (∀ n ∈ s'.pendingQueue,
          n < s.window.upperBound) ∧
        ∀ n, s'.recvPc.resendTo? = some n →
          n ≤ s.window.upperBound := by
    cases recvHandlerStep_branch hStep with
    | readsUpper =>
        refine ⟨hAllocated.queue, ?_⟩
        intro n hResend
        cases hResend
        exact le_rfl
    | locksQueue hPc =>
        rw [hPc] at hResending
        exact ⟨hAllocated.queue, hResending⟩
    | pushes hPc =>
        rw [hPc] at hResending
        refine ⟨?_, fun n hResend => by cases hResend⟩
        intro n hQueued
        rcases ConcurrentQueue.mem_pushAll.mp hQueued with
          hOld | hNew
        · exact hAllocated.queue n hOld
        · have hRange := List.mem_range'_1.mp hNew
          have hUpper := hResending _ rfl
          omega
    | _ =>
        exact ⟨hAllocated.queue,
          fun n hResend => by cases hResend⟩
  refine ⟨?_, ?_, ?_, ?_, ?_⟩
  · rw [hKeeps.upperBound]
    exact hParts.1
  · rw [hKeeps.upperBound, hKeeps.timer]
    exact hAllocated.timer
  · rw [hKeeps.upperBound, hKeeps.sendPc]
    exact hAllocated.sending
  · rw [hKeeps.upperBound]
    exact hParts.2
  · rw [hKeeps.upperBound, hKeeps.exhausted]
    exact hAllocated.exhausted

/- `timeout_handler` queues what the timer mentions. -/
theorem allocated_timeoutHandlerStep
    {s s' : Sender}
    (hAllocated : Allocated s)
    (hStep : s.timeoutHandlerStep = some s') :
    Allocated s' := by
  have hKeeps := timeoutHandlerStep_keeps hStep
  have hParts :
      (∀ n ∈ s'.pendingQueue,
          n < s.window.upperBound) ∧
        ∀ n, s'.timer.Mentions n →
          n < s.window.upperBound := by
    cases timeoutHandlerStep_branch hStep with
    | maps =>
        constructor
        · intro n hQueued
          rcases ConcurrentQueue.mem_pushAll.mp hQueued with
            hOld | hTimedOut
          · exact hAllocated.queue n hOld
          · exact hAllocated.timer n (Or.inr hTimedOut)
        · intro n hMentions
          rcases hMentions with hEntry | hNone
          · exact hAllocated.timer n (Or.inl hEntry)
          · cases hNone
    | _ => exact ⟨hAllocated.queue, hAllocated.timer⟩
  apply hAllocated.congr (by rw [hKeeps.window]) ?_ ?_ ?_
    hKeeps.recvPc (by rw [hKeeps.history])
  · rw [hKeeps.window]
    exact hParts.1
  · rw [hKeeps.window]
    exact hParts.2
  · rw [hKeeps.window, hKeeps.sendPc]
    exact hAllocated.sending

/- Only allocated numbers are in circulation. -/
theorem allocated_step
    {s s' : Sender}
    {action : Action}
    (hAllocated : Allocated s)
    (hOriginals : Originals s)
    (hStep : s.step action = some s')
    (hWrap : NoWrap s s') :
    Allocated s' := by
  cases action with
  | call call =>
      unfold step callStep at hStep
      dsimp only at hStep
      split_ifs at hStep
      cases call
      all_goals
        rw [← Option.some.inj hStep]
        exact hAllocated.congr le_rfl hAllocated.queue
          hAllocated.timer hAllocated.sending rfl rfl
  | thread thread =>
      cases thread with
      | caller =>
          exact allocated_callerStep hAllocated hOriginals
            hStep hWrap.upper
      | sendHandler =>
          exact allocated_sendHandlerStep hAllocated hStep
      | recvHandler =>
          exact allocated_recvHandlerStep hAllocated hStep
      | timeoutHandler =>
          exact allocated_timeoutHandlerStep hAllocated hStep
  | timer =>
      rcases Option.map_eq_some_iff.mp hStep with
        ⟨timer, hTimer, rfl⟩
      refine hAllocated.congr le_rfl hAllocated.queue ?_
        hAllocated.sending rfl rfl
      exact fun n hMentions => hAllocated.timer n
        (ConcurrentTimer.mentions_of_threadStep hTimer
          hMentions)
  | recv result =>
      have hKeeps := recvStep_keeps hStep
      refine ⟨?_, ?_, ?_, ?_, ?_⟩
      · rw [hKeeps.window, hKeeps.pendingQueue]
        exact hAllocated.queue
      · rw [hKeeps.window, hKeeps.timer]
        exact hAllocated.timer
      · rw [hKeeps.window, hKeeps.sendPc]
        exact hAllocated.sending
      · intro n hResend
        rcases hKeeps.next with ⟨bytes, hNext⟩ | hNext
        · rw [hNext] at hResend
          cases hResend
        · rw [hNext] at hResend
          cases hResend
      · rw [hKeeps.window, hKeeps.history]
        exact hAllocated.exhausted
  | tick duration =>
      rw [← Option.some.inj hStep]
      exact hAllocated.congr le_rfl hAllocated.queue
        hAllocated.timer hAllocated.sending rfl rfl
  | wakeCaller =>
      rw [← Option.some.inj hStep]
      exact hAllocated.congr le_rfl hAllocated.queue
        hAllocated.timer hAllocated.sending rfl rfl
  | wakeTimer =>
      rw [← Option.some.inj hStep]
      refine hAllocated.congr le_rfl hAllocated.queue ?_
        hAllocated.sending rfl rfl
      exact fun n hMentions => hAllocated.timer n
        (ConcurrentTimer.mentions_notifyOne.mp hMentions)

end Sender

end Nkurdt
