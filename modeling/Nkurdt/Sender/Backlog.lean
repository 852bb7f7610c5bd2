import Nkurdt.Sender.Leftovers
import Nkurdt.Sender.TimerUse

/-
  Old numbers in the queue and the timer.

  A number below the lower bound is cleaned up when it comes
  to `send_handler`, and until then it is in the queue or in
  the timer. What enters either of them is never below the
  lower bound at that moment. So the old numbers below a
  fixed one become fewer only.

  Main declarations:
    * `Sender.Rising`
    * `Sender.rising_step`
    * `Sender.backlog`
    * `Sender.backlog_step_le`
-/

------------------------------------------------------------
-- Numbers That Enter
------------------------------------------------------------

namespace Nkurdt

/- The range that is about to be queued again begins here. -/
def RecvPc.resendFrom? : RecvPc → Option Nat
| .fastUpper _ lower => some lower
| .lockQueue _ lower _ => some lower
| .pushAll _ lower _ => some lower
| _ => none

namespace Sender

/-
  `send_packet` holds the newest number, a range is queued
  again from the lower bound on, and what is about to be
  registered has passed the check of the window.
-/
structure Rising (s : Sender) : Prop where
  newest :
    ∀ t seq, s.callerPc.allocated? = some (t, seq) →
      s.window.upperBound = seq + 1
  resends :
    ∀ lower, s.recvPc.resendFrom? = some lower →
      lower = s.window.lowerBound
  registers :
    ∀ seq, s.sendPc = .register seq →
      s.window.lowerBound ≤ seq

theorem rising_fresh
    (config : SenderConfig) :
    Rising (fresh config) := by
  refine ⟨?_, ?_, ?_⟩
  · exact fun _ _ hPc => by cases hPc
  · exact fun _ hPc => by cases hPc
  · exact fun _ hPc => by cases hPc

theorem newest_callerStep
    {s s' : Sender}
    (hRising : Rising s)
    (hOriginals : Originals s)
    (hStep : s.callerStep = some s')
    (hUpper :
      s.window.upperBound ≤ s'.window.upperBound) :
    ∀ t seq, s'.callerPc.allocated? = some (t, seq) →
      s'.window.upperBound = seq + 1 := by
  intro t seq hNext
  cases callerStep_branch hStep with
  | updatesUpper hPc =>
      have hReserved := hOriginals.reserved _ _ hPc
      cases hNext
      rw [hReserved]
      exact (SequenceNumber.update_of_le hUpper).1
  | locksPool hPc | emplaces hPc =>
      cases hNext
      exact hRising.newest _ _ (by rw [hPc]; rfl)
  | @abandons transfer hPc | @unlocksPool transfer hPc =>
      cases transfer <;> cases hNext
  | _ => cases hNext

theorem resends_recvHandlerStep
    {s s' : Sender}
    (hRising : Rising s)
    (hStep : s.recvHandlerStep = some s') :
    ∀ lower, s'.recvPc.resendFrom? = some lower →
      lower = s'.window.lowerBound := by
  intro lower hNext
  cases recvHandlerStep_branch hStep with
  | readsLower =>
      cases hNext
      rfl
  | readsUpper hPc | locksQueue hPc =>
      cases hNext
      exact hRising.resends _ (by rw [hPc]; rfl)
  | _ => cases hNext

theorem registers_sendHandlerStep
    {s s' : Sender}
    (hCleared : Cleared s)
    (hStep : s.sendHandlerStep = some s') :
    ∀ seq, s'.sendPc = .register seq →
      s'.window.lowerBound ≤ seq := by
  intro seq hNext
  cases sendHandlerStep_branch hStep with
  | transmits hPc =>
      cases hNext
      exact hCleared.lower _ (by rw [hPc]; rfl)
  | _ => cases hNext

theorem rising_step
    {s s' : Sender}
    {action : Action}
    (hDisciplined : Disciplined s)
    (hRising : Rising s)
    (hStep : s.step action = some s')
    (hWrap : NoWrap s s') :
    Rising s' := by
  refine ⟨?_, ?_, ?_⟩
  · by_cases hCaller : action = .thread .caller
    · subst hCaller
      exact newest_callerStep hRising hDisciplined.originals
        hStep hWrap.upper
    by_cases hCall : ∃ call, action = .call call
    · rcases hCall with ⟨call, rfl⟩
      rw [(callStep_keeps hStep).allocated]
      exact fun _ _ hNext => by cases hNext
    · have hKept :=
        callKept_step hStep
          (fun call hAction => hCall ⟨call, hAction⟩) hCaller
      rw [hKept.upperBound,
        (transfer?_of_wake hKept.callerPc).2.1]
      exact hRising.newest
  · by_cases hRecv : action = .thread .recvHandler
    · subst hRecv
      exact resends_recvHandlerStep hRising hStep
    · have hKeeps := step_keeps hStep hRecv
      rw [hKeeps.lowerBound]
      rcases hKeeps.recvPc with
        hSame | ⟨_, ⟨bytes, hNext⟩ | hNext⟩
      · rw [hSame]
        exact hRising.resends
      · rw [hNext]
        exact fun _ hResend => by cases hResend
      · rw [hNext]
        exact fun _ hResend => by cases hResend
  · by_cases hSend : action = .thread .sendHandler
    · subst hSend
      exact registers_sendHandlerStep hDisciplined.cleared
        hStep
    have hPc := (sendHandler_of_other hStep hSend).1
    rw [hPc]
    by_cases hRecv : action = .thread .recvHandler
    · subst hRecv
      intro seq hRegister
      have hOutside : ¬ s.recvPc.InAcked := by
        intro hInside
        have hSame :=
          @Mutexes.Guarded.exclusive Thread _ _
            hDisciplined.guarded.acked .recvHandler
            .sendHandler hInside
            (show s.sendPc.InAcked by
              rw [hRegister]
              trivial)
        cases hSame
      rw [window_recvHandlerStep hOutside hStep]
      exact hRising.registers seq hRegister
    · rw [(step_keeps hStep hRecv).lowerBound]
      exact hRising.registers

open Runs

theorem rising_of_reaches
    {config : SenderConfig}
    {s : Sender}
    (hReach :
      Reaches step (fun current _ next => NoWrap current next)
        (fresh config) s) :
    Rising s :=
  hReach.invariant_of_known
    (fun _ hReached => disciplined_of_reaches hReached)
    (rising_fresh config)
    (fun _ _ _ hDisciplined _ hRising hStep hWrap =>
      rising_step hDisciplined hRising hStep hWrap)

end Sender

end Nkurdt

------------------------------------------------------------
-- The Backlog of the Timer
------------------------------------------------------------

namespace Nkurdt

namespace ConcurrentQueue

/- A queued number adds at most itself to a count. -/
theorem countP_pushAll_le
    (p : Nat → Bool)
    (queue : ConcurrentQueue Nat)
    (numbers : List Nat) :
    (queue.pushAll numbers).elems.countP p ≤
      queue.elems.countP p + numbers.countP p := by
  unfold pushAll
  induction numbers generalizing queue with
  | nil => exact le_rfl
  | cons number numbers ih =>
      have hPush :
          (queue.push number).elems.countP p ≤
            queue.elems.countP p + (p number).toNat :=
        OrderedSet.countP_insert_le p queue number
      rw [List.foldl_cons, List.countP_cons]
      have hRest := ih (queue.push number)
      cases hNew : p number with
      | false =>
          rw [hNew] at hPush
          simp at hPush ⊢
          omega
      | true =>
          rw [hNew] at hPush
          simp at hPush ⊢
          omega

/- What is taken out leaves the count. -/
theorem countP_pop?
    {queue rest : ConcurrentQueue Nat}
    {number : Nat}
    (p : Nat → Bool)
    (hPop : queue.pop? = some (number, rest)) :
    queue.elems.countP p =
      rest.elems.countP p + (p number).toNat := by
  unfold pop? at hPop
  rcases Option.map_eq_some_iff.mp hPop with
    ⟨first, hFirst, hPair⟩
  cases hPair
  rcases queue with ⟨_ | ⟨head, elems⟩, hSorted⟩
  · cases hFirst
  · cases hFirst
    change (number :: elems).countP p =
      elems.countP p + (p number).toNat
    rw [List.countP_cons]
    cases p number <;> simp

end ConcurrentQueue

namespace ConcurrentTimer

/- The entries of the timer for numbers below `n`. -/
def backlog
    (timer : ConcurrentTimer Nat)
    (n : Nat) : Nat :=
  timer.timedOutEvents.countP (fun m => decide (m < n)) +
    timer.events.entries.countP
      (fun entry => decide (entry.2 < n))

theorem backlog_notifyOne
    (timer : ConcurrentTimer Nat)
    (n : Nat) :
    timer.notifyOne.backlog n = timer.backlog n := by
  unfold backlog
  rw [(notifyOne_frame timer).1,
    (notifyOne_frame timer).2.2.1]

/- A number that is not below `n` adds nothing. -/
theorem backlog_registerEvent_le
    {timer : ConcurrentTimer Nat}
    {n seq timeout now : Nat}
    (hAbove : n ≤ seq) :
    (timer.registerEvent seq timeout now).backlog n ≤
      timer.backlog n := by
  unfold registerEvent
  dsimp only
  rw [backlog_notifyOne]
  unfold backlog
  dsimp only
  have hCount :
      ∀ events : OrderedMultimap Nat Nat,
        (events.emplace (now + milliseconds timeout)
            seq).entries.countP
            (fun entry => decide (entry.2 < n)) =
          events.entries.countP
            (fun entry => decide (entry.2 < n)) := by
    intro events
    have hPerm :=
      OrderedMultimap.perm_emplaceList
        (now + milliseconds timeout) seq events.entries
    refine (hPerm.countP_eq _).trans ?_
    rw [List.countP_cons, if_neg, Nat.add_zero]
    simpa using hAbove
  rw [hCount]
  cases timer.registeredEvents seq with
  | none => exact le_rfl
  | some oldTp =>
      exact Nat.add_le_add_left
        (List.erase_sublist.countP_le) _

theorem backlog_removeEvent_le
    (timer : ConcurrentTimer Nat)
    (n seq : Nat) :
    (timer.removeEvent seq).backlog n ≤ timer.backlog n := by
  unfold removeEvent
  cases timer.registeredEvents seq with
  | none => exact le_rfl
  | some tp =>
      exact Nat.add_le_add
        (List.erase_sublist.countP_le)
        (List.erase_sublist.countP_le)

/- The thread moves entries, and makes no new ones. -/
theorem backlog_threadStep_le
    {timer timer' : ConcurrentTimer Nat}
    {now : Nat}
    (n : Nat)
    (hStep : timer.threadStep now = some timer') :
    timer'.backlog n ≤ timer.backlog n := by
  cases threadMove_threadStep hStep with
  | moves pc hNext =>
      subst hNext
      exact le_rfl
  | expires last tp seq _ hFirst _ hNext =>
      subst hNext
      unfold backlog expireFirst OrderedMultimap.eraseFirst
      dsimp only
      have hHead :
          timer.events.entries =
            (tp, seq) :: timer.events.entries.tail :=
        (List.cons_head?_tail hFirst).symm
      have hInsert :
          (timer.timedOutEvents.insert seq).countP
              (fun m => decide (m < n)) ≤
            timer.timedOutEvents.countP
                (fun m => decide (m < n)) +
              if seq < n then 1 else 0 := by
        by_cases hMember : seq ∈ timer.timedOutEvents
        · rw [List.insert_of_mem hMember]
          exact Nat.le_add_right _ _
        · rw [List.insert_of_not_mem hMember,
            List.countP_cons]
          simp
      have hCount :
          timer.events.entries.countP
              (fun entry => decide (entry.2 < n)) =
            timer.events.entries.tail.countP
                (fun entry => decide (entry.2 < n)) +
              if seq < n then 1 else 0 := by
        rw [hHead, List.countP_cons]
        simp
      omega

end ConcurrentTimer

end Nkurdt

------------------------------------------------------------
-- The Backlog of the Sender
------------------------------------------------------------

namespace Nkurdt

namespace Sender

open ConcurrentTimer

/- The places below `n` in the queue and in the timer. -/
def backlog (s : Sender) (n : Nat) : Nat :=
  s.pendingQueue.elems.countP (fun m => decide (m < n)) +
    s.timer.backlog n

theorem backlog_of_same
    {s s' : Sender}
    (n : Nat)
    (hQueue : s'.pendingQueue = s.pendingQueue)
    (hTimer : s'.timer = s.timer) :
    s'.backlog n = s.backlog n := by
  unfold backlog
  rw [hQueue, hTimer]

theorem backlog_callerStep_le
    {s s' : Sender}
    {n : Nat}
    (hRising : Rising s)
    (hUpper : n < s.window.upperBound)
    (hStep : s.callerStep = some s') :
    s'.backlog n ≤ s.backlog n := by
  cases callerStep_branch hStep with
  | @pushes t seq hPc =>
      have hNewest := hRising.newest t seq (by rw [hPc]; rfl)
      have hPush :
          (s.pendingQueue.push seq).elems.countP
              (fun m => decide (m < n)) ≤
            s.pendingQueue.elems.countP
                (fun m => decide (m < n)) +
              (decide (seq < n)).toNat :=
        OrderedSet.countP_insert_le _ s.pendingQueue seq
      have hAbove : decide (seq < n) = false :=
        decide_eq_false (by omega)
      rw [hAbove] at hPush
      exact Nat.add_le_add_right hPush _
  | notifiesTimer =>
      exact Nat.add_le_add_left
        (backlog_notifyOne s.timer n).le _
  | _ => exact le_rfl

theorem backlog_recvHandlerStep_le
    {s s' : Sender}
    {n : Nat}
    (hRising : Rising s)
    (hLower : n ≤ s.window.lowerBound)
    (hStep : s.recvHandlerStep = some s') :
    s'.backlog n ≤ s.backlog n := by
  cases recvHandlerStep_branch hStep with
  | @pushes packet lower upper hPc =>
      have hFrom := hRising.resends lower (by rw [hPc]; rfl)
      have hPush :=
        ConcurrentQueue.countP_pushAll_le
          (fun m => decide (m < n)) s.pendingQueue
          (List.range' lower (upper - lower))
      have hNone :
          (List.range' lower (upper - lower)).countP
              (fun m => decide (m < n)) = 0 := by
        rw [List.countP_eq_zero]
        intro m hMember hBelow
        have hAbove := (List.mem_range'_1.mp hMember).1
        have hLess := of_decide_eq_true hBelow
        omega
      rw [hNone] at hPush
      exact Nat.add_le_add_right hPush _
  | _ => exact le_rfl

theorem backlog_timeoutHandlerStep_le
    {s s' : Sender}
    (n : Nat)
    (hStep : s.timeoutHandlerStep = some s') :
    s'.backlog n ≤ s.backlog n := by
  cases timeoutHandlerStep_branch hStep with
  | maps =>
      have hPush :=
        ConcurrentQueue.countP_pushAll_le
          (fun m => decide (m < n)) s.pendingQueue
          s.timer.timedOutEvents
      unfold backlog ConcurrentTimer.backlog clearTimedOut
      dsimp only
      rw [List.countP_nil]
      omega
  | _ => exact le_rfl

/-
  `send_handler` takes a number out of the queue when it
  comes to the pool, and that number counts no longer.
-/
theorem backlog_sendHandlerStep_le
    {s s' : Sender}
    {n : Nat}
    (hRising : Rising s)
    (hLower : n ≤ s.window.lowerBound)
    (hStep : s.sendHandlerStep = some s') :
    s'.backlog n ≤ s.backlog n ∧
      ∀ seq, s.sendPc = .pop → s'.sendPc = .lockPool seq →
        s'.backlog n + (decide (seq < n)).toNat =
          s.backlog n := by
  cases sendHandlerStep_branch hStep with
  | @pops seq rest hPc hPop =>
      have hTaken :=
        ConcurrentQueue.countP_pop?
          (fun m => decide (m < n)) hPop
      unfold backlog
      dsimp only
      refine ⟨by omega, ?_⟩
      intro m _ hNext
      cases hNext
      omega
  | @registers seq hPc =>
      refine ⟨Nat.add_le_add_left
        (backlog_registerEvent_le
          (hLower.trans (hRising.registers seq hPc))) _, ?_⟩
      exact fun _ hAt => by rw [hPc] at hAt; cases hAt
  | removes hPc =>
      refine ⟨Nat.add_le_add_left
        (backlog_removeEvent_le s.timer n _) _, ?_⟩
      exact fun _ hAt => by rw [hPc] at hAt; cases hAt
  | misses =>
      refine ⟨le_rfl, ?_⟩
      exact fun _ _ hNext => by cases hNext
  | _ hPc =>
      refine ⟨le_rfl, ?_⟩
      exact fun _ hAt => by rw [hPc] at hAt; cases hAt

/- No step adds to the backlog below the window. -/
theorem backlog_step_le
    {s s' : Sender}
    {action : Action}
    {n : Nat}
    (hRising : Rising s)
    (hLower : n ≤ s.window.lowerBound)
    (hUpper : n < s.window.upperBound)
    (hStep : s.step action = some s') :
    s'.backlog n ≤ s.backlog n := by
  cases action with
  | call call =>
      have hKeeps := callStep_keeps hStep
      exact (backlog_of_same _ hKeeps.pendingQueue
        hKeeps.timer).le
  | thread thread =>
      cases thread with
      | caller => exact backlog_callerStep_le hRising hUpper hStep
      | sendHandler =>
          exact (backlog_sendHandlerStep_le hRising hLower
            hStep).1
      | recvHandler =>
          exact backlog_recvHandlerStep_le hRising hLower hStep
      | timeoutHandler =>
          exact backlog_timeoutHandlerStep_le n hStep
  | timer =>
      rcases Option.map_eq_some_iff.mp hStep with
        ⟨timer, hThread, rfl⟩
      exact Nat.add_le_add_left
        (backlog_threadStep_le n hThread) _
  | recv result =>
      have hKeeps := recvStep_keeps hStep
      exact (backlog_of_same n hKeeps.pendingQueue
        hKeeps.timer).le
  | tick duration =>
      cases hStep
      exact le_rfl
  | wakeCaller =>
      cases hStep
      exact le_rfl
  | wakeTimer =>
      cases hStep
      exact Nat.add_le_add_left
        (backlog_notifyOne s.timer n).le _

end Sender

end Nkurdt
