import Nkurdt.Sender.Residue
import Nkurdt.Sender.Transmissions

/-
  What the sender keeps of a number.

  The pool and the counts of the retries are erased by
  `send_handler` only, when it takes a number that needs no
  transmission any more. So whatever is left in them must
  come to `send_handler` again: the number is in the hands
  of `send_packet`, or scheduled. The one exception are
  numbers whose retries were found used up.

  Main declarations:
    * `Sender.Remembers`
    * `Sender.Due`
    * `Sender.Tidy`
    * `Sender.tidy_step`
    * `Sender.remembered_due`
-/

------------------------------------------------------------
-- Remembered Numbers
------------------------------------------------------------

namespace Nkurdt

namespace Sender

/- The pool or the counts still hold the number. -/
def Remembers (s : Sender) (n : Nat) : Prop :=
  s.packetPool n ≠ none ∨ s.retryCount n ≠ none

/- The retries of the number were found used up. -/
def GivenUp (s : Sender) (n : Nat) : Prop :=
  n ∈ s.history.exhausted

/- The number comes up again, or it has been given up. -/
def Due (s : Sender) (n : Nat) : Prop :=
  s.HeldBySendPacket n ∨ s.Scheduled n ∨ s.GivenUp n

/-
  The invariant. A number whose event is about to be removed
  must be due without the timer.
-/
structure Tidy (s : Sender) : Prop where
  due : ∀ n, s.Remembers n → s.Due n
  removing :
    ∀ n, s.sendPc = .removeEvent n → s.Remembers n →
      s.HeldBySendPacket n ∨ n ∈ s.pendingQueue ∨
        s.GivenUp n

theorem tidy_fresh
    (config : SenderConfig) :
    Tidy (fresh config) := by
  refine ⟨?_, fun _ hPc => by cases hPc⟩
  rintro n (hPool | hRetry)
  · exact absurd (UnorderedMap.empty_apply n) hPool
  · exact absurd (UnorderedMap.empty_apply n) hRetry

theorem Due.mono
    {s s' : Sender}
    {n : Nat}
    (hHeld :
      s.HeldBySendPacket n →
        s'.HeldBySendPacket n ∨ n ∈ s'.pendingQueue)
    (hScheduled : s.Scheduled n → s'.Scheduled n)
    (hGivenUp : s.GivenUp n → s'.GivenUp n)
    (hDue : s.Due n) :
    s'.Due n := by
  rcases hDue with hOld | hOld | hOld
  · exact (hHeld hOld).imp_right
      (fun hQueued => Or.inl (.queued hQueued))
  · exact Or.inr (Or.inl (hScheduled hOld))
  · exact Or.inr (Or.inr (hGivenUp hOld))

/-
  A step of another thread than `send_handler`: what was
  scheduled stays so, and only `send_packet` stores anything.
-/
theorem tidy_of_other
    {s s' : Sender}
    (hTidy : Tidy s)
    (hSend : s'.sendPc = s.sendPc)
    (hGivenUp : ∀ n, s.GivenUp n → s'.GivenUp n)
    (hQueue :
      ∀ n, n ∈ s.pendingQueue → n ∈ s'.pendingQueue)
    (hWatched :
      ∀ n, s.timer.Watched n →
        n ∈ s'.pendingQueue ∨ s'.timer.Watched n)
    (hHeld :
      ∀ n, s.HeldBySendPacket n →
        s'.HeldBySendPacket n ∨ n ∈ s'.pendingQueue)
    (hRemembers :
      ∀ n, s'.Remembers n →
        s.Remembers n ∨ s'.HeldBySendPacket n) :
    Tidy s' := by
  refine ⟨?_, ?_⟩
  · intro n hNew
    rcases hRemembers n hNew with hOld | hHere
    · refine (hTidy.due n hOld).mono (hHeld n) ?_
        (hGivenUp n)
      rintro (hQueued | hTimed | hInHand)
      · exact .queued (hQueue n hQueued)
      · exact (hWatched n hTimed).elim .queued .watched
      · exact .inHand (by rw [hSend]; exact hInHand)
    · exact Or.inl hHere
  · intro n hPc hNew
    rw [hSend] at hPc
    rcases hRemembers n hNew with hOld | hHere
    · rcases hTidy.removing n hPc hOld with
        hBefore | hQueued | hLost
      · exact (hHeld n hBefore).imp_right Or.inl
      · exact Or.inr (Or.inl (hQueue n hQueued))
      · exact Or.inr (Or.inr (hGivenUp n hLost))
    · exact Or.inl hHere

end Sender

end Nkurdt

------------------------------------------------------------
-- Steps of the Caller
------------------------------------------------------------

namespace Nkurdt

namespace Sender

/-
  What `send_packet` has taken stays in its hands until it
  is in the queue.
-/
theorem heldBySendPacket_callerStep
    {s s' : Sender}
    {n : Nat}
    (hStep : s.callerStep = some s')
    (hHeld : s.HeldBySendPacket n) :
    s'.HeldBySendPacket n ∨ n ∈ s'.pendingQueue := by
  rcases hHeld with ⟨t, hAllocated⟩
  cases callerStep_branch hStep with
  | locksPool hPc | emplaces hPc =>
      rw [hPc] at hAllocated
      exact Or.inl ⟨t, hAllocated⟩
  | pushes hPc =>
      rw [hPc] at hAllocated
      cases hAllocated
      exact Or.inr (ConcurrentQueue.mem_push.mpr (Or.inr rfl))
  | _ hPc =>
      rw [hPc] at hAllocated
      cases hAllocated

/- The pool gains the packet that `send_packet` holds. -/
theorem remembers_callerStep
    {s s' : Sender}
    {n : Nat}
    (hStep : s.callerStep = some s')
    (hNew : s'.Remembers n) :
    s.Remembers n ∨ s'.HeldBySendPacket n := by
  unfold Remembers at hNew ⊢
  cases callerStep_branch hStep with
  | @emplaces t seq hPc =>
      by_cases hNumber : n = seq
      · exact Or.inr ⟨t, by rw [hNumber]; rfl⟩
      · left
        dsimp only at hNew
        rw [UnorderedMap.emplace_apply,
          if_neg hNumber] at hNew
        exact hNew
  | _ => exact Or.inl hNew

/- The caller takes nothing out of the queue. -/
theorem mem_pendingQueue_callerStep
    {s s' : Sender}
    {n : Nat}
    (hStep : s.callerStep = some s')
    (hQueued : n ∈ s.pendingQueue) :
    n ∈ s'.pendingQueue := by
  cases callerStep_branch hStep with
  | pushes =>
      exact ConcurrentQueue.mem_push.mpr (Or.inl hQueued)
  | _ => exact hQueued

theorem tidy_callerStep
    {s s' : Sender}
    (hTidy : Tidy s)
    (hStep : s.callerStep = some s')
    (hGivenUp : ∀ n, s.GivenUp n → s'.GivenUp n) :
    Tidy s' := by
  have hKeeps := callerStep_keeps hStep
  exact tidy_of_other hTidy hKeeps.sendPc hGivenUp
    (fun _ => mem_pendingQueue_callerStep hStep)
    (fun n hWatched => Or.inr ((hKeeps.watched n).mpr hWatched))
    (fun _ => heldBySendPacket_callerStep hStep)
    (fun _ => remembers_callerStep hStep)

end Sender

end Nkurdt

------------------------------------------------------------
-- Steps of the Send Handler
------------------------------------------------------------

namespace Nkurdt

namespace Sender

/- What has passed both checks is outstanding. -/
theorem outstanding_of_inWindow
    {s : Sender}
    {n : Nat}
    (hCleared : Cleared s)
    (hAllocated : Allocated s)
    (hNumber : s.sendPc.number? = some n)
    (hInWindow : s.sendPc.inWindow? = some n) :
    s.Outstanding n :=
  ⟨hCleared.lower n hInWindow,
    hAllocated.sending n hNumber,
    fun hAcked =>
      hCleared.acked n
        (SendPc.unacked?_of_inWindow? hInWindow) hAcked.1
        hAcked.2⟩

/-
  A step of `send_handler` that erases nothing: the number
  in its hands goes where it stays due.
-/
theorem tidy_of_sendHandler
    {s s' : Sender}
    (hTidy : Tidy s)
    (hKeeps : SendHandlerKeeps s s')
    (hRemembers :
      ∀ n, s'.Remembers n → s.Remembers n ∨ s'.Due n)
    (hGivenUp : ∀ n, s.GivenUp n → s'.GivenUp n)
    (hQueue :
      ∀ n, n ∈ s.pendingQueue → s'.Scheduled n)
    (hWatched :
      ∀ n, s'.Remembers n → s.timer.Watched n → s'.Due n)
    (hInHand :
      ∀ n, s'.Remembers n → s.sendPc.held? = some n →
        s'.Due n)
    (hRemoving :
      ∀ n, s'.sendPc = .removeEvent n → s'.Remembers n →
        s'.HeldBySendPacket n) :
    Tidy s' := by
  refine ⟨?_, ?_⟩
  · intro n hNew
    rcases hRemembers n hNew with hOld | hHere
    · rcases hTidy.due n hOld with
        hHeld | (hQueued | hTimed | hSelf) | hLost
      · exact Or.inl
          (heldBySendPacket_of_wake hKeeps.callerPc hHeld)
      · exact Or.inr (Or.inl (hQueue n hQueued))
      · exact hWatched n hNew hTimed
      · exact hInHand n hNew hSelf
      · exact Or.inr (Or.inr (hGivenUp n hLost))
    · exact hHere
  · intro n hPc hNew
    exact Or.inl (hRemoving n hPc hNew)

/- Such a step that moves no number at all. -/
theorem tidy_of_sendHandlerQuiet
    {s s' : Sender}
    (hTidy : Tidy s)
    (hKeeps : SendHandlerKeeps s s')
    (hPool : s'.packetPool = s.packetPool)
    (hRetry : s'.retryCount = s.retryCount)
    (hQueue : s'.pendingQueue = s.pendingQueue)
    (hTimer : s'.timer = s.timer)
    (hExhausted :
      s'.history.exhausted = s.history.exhausted)
    (hHeld : s'.sendPc.held? = s.sendPc.held?)
    (hStays : ∀ n, s'.sendPc ≠ .removeEvent n) :
    Tidy s' := by
  apply tidy_of_sendHandler hTidy hKeeps
  · intro n hNew
    unfold Remembers at hNew
    rw [hPool, hRetry] at hNew
    exact Or.inl hNew
  · unfold GivenUp
    rw [hExhausted]
    exact fun _ hMember => hMember
  · intro n hQueued
    exact .queued (by rw [hQueue]; exact hQueued)
  · intro n _ hWatched
    exact Or.inr (Or.inl (.watched (by
      rw [hTimer]
      exact hWatched)))
  · intro n _ hInHand
    exact Or.inr (Or.inl (.inHand (hHeld.trans hInHand)))
  · exact fun n hPc => absurd hPc (hStays n)

/- What is cleaned up is not remembered any more. -/
theorem tidy_cleanUp
    {s : Sender}
    {seq : Nat}
    (hTidy : Tidy s)
    (hKeeps : SendHandlerKeeps s (s.cleanUp seq))
    (hHeld : s.sendPc.held? = some seq) :
    Tidy (s.cleanUp seq) := by
  have hForgotten : ¬ (s.cleanUp seq).Remembers seq := by
    unfold Remembers cleanUp
    simp
  have hOther :
      ∀ n, (s.cleanUp seq).Remembers n → s.Remembers n := by
    intro n hNew
    have hNumber : n ≠ seq := by
      rintro rfl
      exact hForgotten hNew
    unfold Remembers cleanUp at hNew
    dsimp only at hNew
    rw [UnorderedMap.erase_apply, if_neg hNumber,
      UnorderedMap.erase_apply, if_neg hNumber] at hNew
    exact hNew
  apply tidy_of_sendHandler hTidy hKeeps
  · exact fun n hNew => Or.inl (hOther n hNew)
  · exact fun _ hMember => hMember
  · exact fun _ hQueued => .queued hQueued
  · exact fun _ _ hWatched => Or.inr (Or.inl (.watched hWatched))
  · intro n hNew hSelf
    rw [hHeld] at hSelf
    cases hSelf
    exact absurd hNew hForgotten
  · intro n hPc hNew
    cases hPc
    exact absurd hNew hForgotten

/-
  A retry is counted for the number in hand, which is then
  on its way to the socket.
-/
theorem tidy_counts
    {s : Sender}
    {seq : Nat}
    {retryCount : UnorderedMap Nat Nat}
    (hTidy : Tidy s)
    (hPc : s.sendPc = .retry seq)
    (hKeeps :
      SendHandlerKeeps s
        { s with
          retryCount := retryCount
          sendPc := .transmit seq })
    (hOther :
      ∀ n, n ≠ seq → retryCount n = s.retryCount n) :
    Tidy
      { s with
        retryCount := retryCount
        sendPc := .transmit seq } := by
  apply tidy_of_sendHandler hTidy hKeeps
  · intro n hNew
    by_cases hNumber : n = seq
    · right
      rw [hNumber]
      exact Or.inr (Or.inl (.inHand rfl))
    · left
      unfold Remembers at hNew ⊢
      dsimp only at hNew
      rw [hOther n hNumber] at hNew
      exact hNew
  · exact fun _ hMember => hMember
  · exact fun _ hQueued => .queued hQueued
  · exact fun _ _ hWatched => Or.inr (Or.inl (.watched hWatched))
  · intro n _ hSelf
    rw [hPc] at hSelf
    exact Or.inr (Or.inl (.inHand hSelf))
  · exact fun _ hNext => by cases hNext

theorem tidy_sendHandlerStep
    {s s' : Sender}
    (hAccounted : Accounted GivenUp s)
    (hAllocated : Allocated s)
    (hCleared : Cleared s)
    (hTidy : Tidy s)
    (hStep : s.sendHandlerStep = some s') :
    Tidy s' := by
  have hKeeps := sendHandlerStep_keeps hStep
  cases sendHandlerStep_branch hStep with
  | pops hPc hPop =>
      apply tidy_of_sendHandler hTidy hKeeps
      · exact fun _ hNew => Or.inl hNew
      · exact fun _ hMember => hMember
      · intro n hQueued
        rcases (ConcurrentQueue.mem_of_pop? hPop).mp hQueued
          with rfl | hRest
        · exact .inHand rfl
        · exact .queued hRest
      · exact fun _ _ hWatched =>
          Or.inr (Or.inl (.watched hWatched))
      · intro n _ hSelf
        rw [hPc] at hSelf
        cases hSelf
      · exact fun _ hNext => by cases hNext
  | cleansAcked hPc | cleansBelow hPc =>
      exact tidy_cleanUp hTidy hKeeps (by rw [hPc]; rfl)
  | @findsEmpty seq lower hPc hEmpty =>
      -- The lower bound stays while the mutex is held, and
      -- the number is below the upper one.
      have hOutstanding : s.Outstanding seq :=
        outstanding_of_inWindow hCleared hAllocated
          (by rw [hPc]; rfl) (by rw [hPc]; rfl)
      have hRead := hAccounted.lowerRead seq lower hPc
      have hLow := hOutstanding.1
      have hHigh := hOutstanding.2.1
      omega
  | @usesUp seq count hPc =>
      apply tidy_of_sendHandler hTidy hKeeps
      · exact fun _ hNew => Or.inl hNew
      · exact fun _ hMember => List.mem_append_left _ hMember
      · exact fun _ hQueued => .queued hQueued
      · exact fun _ _ hWatched =>
          Or.inr (Or.inl (.watched hWatched))
      · intro n _ hSelf
        rw [hPc] at hSelf
        cases hSelf
        exact Or.inr (Or.inr
          (List.mem_append_right _ (List.mem_singleton_self _)))
      · exact fun _ hNext => by cases hNext
  | retries hPc =>
      exact tidy_counts hTidy hPc hKeeps
        (fun n hNumber => by
          rw [UnorderedMap.assign_apply, if_neg hNumber])
  | starts hPc =>
      exact tidy_counts hTidy hPc hKeeps
        (fun n hNumber => by
          rw [UnorderedMap.emplace_apply, if_neg hNumber])
  | @findsNone seq hPc hAbsent =>
      have hOutstanding : s.Outstanding seq :=
        outstanding_of_inWindow hCleared hAllocated
          (by rw [hPc]; rfl) (by rw [hPc]; rfl)
      have hHeld : s.HeldBySendPacket seq :=
        (hAccounted.kept seq hOutstanding).resolve_right
          (fun hKept => hKept.1 hAbsent)
      apply tidy_of_sendHandler hTidy hKeeps
      · exact fun _ hNew => Or.inl hNew
      · exact fun _ hMember => hMember
      · exact fun _ hQueued => .queued hQueued
      · exact fun _ _ hWatched =>
          Or.inr (Or.inl (.watched hWatched))
      · intro n _ hSelf
        rw [hPc] at hSelf
        cases hSelf
        exact Or.inl hHeld
      · intro n hNext _
        cases hNext
        exact hHeld
  | registers hPc =>
      apply tidy_of_sendHandler hTidy hKeeps
      · exact fun _ hNew => Or.inl hNew
      · exact fun _ hMember => hMember
      · exact fun _ hQueued => .queued hQueued
      · exact fun _ _ hWatched =>
          Or.inr (Or.inl (.watched
            (ConcurrentTimer.watched_registerEvent.mpr
              (Or.inl hWatched))))
      · intro n _ hSelf
        rw [hPc] at hSelf
        cases hSelf
        exact Or.inr (Or.inl (.watched
          (ConcurrentTimer.watched_registerEvent.mpr
            (Or.inr rfl))))
      · exact fun _ hNext => by cases hNext
  | @removes seq hPc =>
      apply tidy_of_sendHandler hTidy hKeeps
      · exact fun _ hNew => Or.inl hNew
      · exact fun _ hMember => hMember
      · exact fun _ hQueued => .queued hQueued
      · intro n hNew hWatched
        by_cases hNumber : n = seq
        · subst hNumber
          exact (hTidy.removing n hPc hNew).imp_right
            (Or.imp_left .queued)
        · exact Or.inr (Or.inl (.watched
            (ConcurrentTimer.watched_removeEvent hNumber
              hWatched)))
      · intro n _ hSelf
        rw [hPc] at hSelf
        cases hSelf
      · exact fun _ hNext => by cases hNext
  | _ hPc =>
      exact tidy_of_sendHandlerQuiet hTidy hKeeps rfl rfl rfl
        rfl rfl (by rw [hPc]; rfl)
        (fun _ hNext => by cases hNext)

end Sender

end Nkurdt

------------------------------------------------------------
-- Every Run
------------------------------------------------------------

namespace Nkurdt

namespace Sender

open Runs

/- What has been given up stays so. -/
theorem givenUp_step
    {s s' : Sender}
    {action : Action}
    {n : Nat}
    (hStep : s.step action = some s')
    (hGivenUp : s.GivenUp n) :
    s'.GivenUp n := by
  unfold GivenUp at hGivenUp ⊢
  rcases exhausted_step hStep with hSame | ⟨_, _, _, _, hNoted⟩
  · rw [hSame]
    exact hGivenUp
  · rw [hNoted]
    exact List.mem_append_left _ hGivenUp

theorem tidy_step
    {s s' : Sender}
    {action : Action}
    (hAccounted : Accounted GivenUp s)
    (hAllocated : Allocated s)
    (hCleared : Cleared s)
    (hTidy : Tidy s)
    (hStep : s.step action = some s') :
    Tidy s' := by
  have hGivenUp : ∀ n, s.GivenUp n → s'.GivenUp n :=
    fun _ => givenUp_step hStep
  cases action with
  | call call =>
      have hKeeps := callStep_keeps hStep
      apply tidy_of_other hTidy hKeeps.sendPc hGivenUp
      · rw [hKeeps.pendingQueue]
        exact fun _ hQueued => hQueued
      · rw [hKeeps.timer]
        exact fun _ hWatched => Or.inr hWatched
      · rintro n ⟨t, hHeld⟩
        rw [hKeeps.idle] at hHeld
        cases hHeld
      · unfold Remembers
        rw [hKeeps.packetPool, hKeeps.retryCount]
        exact fun _ hNew => Or.inl hNew
  | thread thread =>
      cases thread with
      | caller => exact tidy_callerStep hTidy hStep hGivenUp
      | sendHandler =>
          exact tidy_sendHandlerStep hAccounted hAllocated
            hCleared hTidy hStep
      | recvHandler =>
          have hKeeps := recvHandlerStep_keeps hStep
          apply tidy_of_other hTidy hKeeps.sendPc hGivenUp
          · exact fun _ =>
              mem_pendingQueue_recvHandlerStep hStep
          · intro n hWatched
            rw [hKeeps.timer]
            exact Or.inr hWatched
          · exact fun _ hHeld => Or.inl
              (heldBySendPacket_of_wake hKeeps.callerPc hHeld)
          · unfold Remembers
            rw [hKeeps.packetPool, hKeeps.retryCount]
            exact fun _ hNew => Or.inl hNew
      | timeoutHandler =>
          have hKeeps := timeoutHandlerStep_keeps hStep
          apply tidy_of_other hTidy hKeeps.sendPc hGivenUp
          · exact fun _ =>
              (scheduled_timeoutHandlerStep hStep).1
          · exact fun _ =>
              (scheduled_timeoutHandlerStep hStep).2
          · exact fun _ hHeld => Or.inl
              (heldBySendPacket_of_wake
                (Or.inl hKeeps.callerPc) hHeld)
          · unfold Remembers
            rw [hKeeps.packetPool, hKeeps.retryCount]
            exact fun _ hNew => Or.inl hNew
  | recv result =>
      have hKeeps := recvStep_keeps hStep
      apply tidy_of_other hTidy hKeeps.sendPc hGivenUp
      · rw [hKeeps.pendingQueue]
        exact fun _ hQueued => hQueued
      · rw [hKeeps.timer]
        exact fun _ hWatched => Or.inr hWatched
      · exact fun _ hHeld => Or.inl
          (heldBySendPacket_of_wake hKeeps.callerPc hHeld)
      · unfold Remembers
        rw [hKeeps.packetPool, hKeeps.retryCount]
        exact fun _ hNew => Or.inl hNew
  | timer =>
      rcases Option.map_eq_some_iff.mp hStep with
        ⟨timer, hTimer, rfl⟩
      exact tidy_of_other hTidy rfl hGivenUp
        (fun _ hQueued => hQueued)
        (fun _ hWatched => Or.inr
          (ConcurrentTimer.watched_threadStep hTimer hWatched))
        (fun _ hHeld => Or.inl hHeld)
        (fun _ hNew => Or.inl hNew)
  | tick duration =>
      cases hStep
      exact tidy_of_other hTidy rfl hGivenUp
        (fun _ hQueued => hQueued)
        (fun _ hWatched => Or.inr hWatched)
        (fun _ hHeld => Or.inl hHeld)
        (fun _ hNew => Or.inl hNew)
  | wakeCaller =>
      cases hStep
      exact tidy_of_other hTidy rfl hGivenUp
        (fun _ hQueued => hQueued)
        (fun _ hWatched => Or.inr hWatched)
        (fun _ hHeld => Or.inl
          (heldBySendPacket_of_wake (Or.inr rfl) hHeld))
        (fun _ hNew => Or.inl hNew)
  | wakeTimer =>
      have hFrame := ConcurrentTimer.notifyOne_frame s.timer
      cases hStep
      refine tidy_of_other hTidy rfl hGivenUp
        (fun _ hQueued => hQueued) ?_
        (fun _ hHeld => Or.inl hHeld)
        (fun _ hNew => Or.inl hNew)
      unfold ConcurrentTimer.Watched
      dsimp only
      rw [hFrame.2.1, hFrame.2.2.1]
      exact fun _ hWatched => Or.inr hWatched

/- The invariants together. -/
structure Recorded (s : Sender) : Prop where
  disciplined : Disciplined s
  accounted : Accounted GivenUp s
  allocated : Allocated s
  tidy : Tidy s

theorem recorded_step
    {s s' : Sender}
    {action : Action}
    (hRecorded : Recorded s)
    (hStep : s.step action = some s')
    (hWrap : NoWrap s s') :
    Recorded s' := by
  obtain ⟨hDisciplined, hAccounted, hAllocated, hTidy⟩ :=
    hRecorded
  refine ⟨disciplined_step hDisciplined hStep hWrap,
    accounted_step hAccounted hStep hWrap
      (fun _ _ => givenUp_step hStep) ?_,
    allocated_step hAllocated hDisciplined.originals hStep
      hWrap,
    tidy_step hAccounted hAllocated hDisciplined.cleared
      hTidy hStep⟩
  intro n hNoted _
  refine Or.inr (Or.inr (Or.inr ?_))
  unfold GivenUp
  rw [hNoted]
  exact List.mem_append_right _ (List.mem_singleton_self n)

theorem recorded_of_reaches
    {config : SenderConfig}
    {s : Sender}
    (hReach :
      Reaches step (fun current _ next => NoWrap current next)
        (fresh config) s) :
    Recorded s :=
  hReach.invariant
    (show Recorded (fresh config) from
      ⟨disciplined_fresh config,
        accounted_fresh GivenUp config,
        allocated_fresh config, tidy_fresh config⟩)
    (fun _ _ _ hCurrent hNext hWrap =>
      recorded_step hCurrent hNext hWrap)

/-
  Nothing is kept for nothing. In every run whose bounds do
  not wrap around, a number with a packet in the pool or a
  count of retries is in the hands of `send_packet`, it is
  queued, watched by the timer or in the hands of
  `send_handler`, or its retries were found used up.
-/
theorem remembered_due
    {config : SenderConfig}
    {s : Sender}
    (hReach :
      Reaches step (fun current _ next => NoWrap current next)
        (fresh config) s) :
    ∀ n, s.Remembers n → s.Due n :=
  (recorded_of_reaches hReach).tidy.due

/-
  The request is acknowledged, and its packet is still in
  the pool.
-/
theorem remembered_due_acknowledged :
    ∃ s : Sender,
      s.window.lowerBound = 1 ∧
        s.packetPool 0 ≠ none ∧ s.Due 0 := by
  have hRun :
      ∃ s,
        Reaches step (fun current _ next => NoWrap current next)
          (fresh ⟨1, 1, 1, false, false⟩) s ∧
        (s.window.lowerBound = 1 ∧
          (s.packetPool 0).isSome = true) :=
    exists_reaches_of_runActions
      ([Action.call (.connect ⟨0, 1⟩)] ++ steps .caller 10 ++
        steps .sendHandler 13 ++ steps .recvHandler 1 ++
        [Action.recv (.datagram
          (Packet.toBytes ⟨version, .connAck, 1, []⟩)
          ⟨0, 1⟩)] ++
        steps .recvHandler 13)
      (by decide +kernel)
  rcases hRun with ⟨s, hReach, hLower, hPool⟩
  have hStored : s.packetPool 0 ≠ none :=
    Option.isSome_iff_ne_none.mp hPool
  exact ⟨s, hLower, hStored,
    remembered_due hReach 0 (Or.inl hStored)⟩

end Sender

end Nkurdt
