import Nkurdt.Library.Turns
import Nkurdt.Sender.Backlog

/-
  The lowest outstanding number is sent again.

  Its way leads from the deadline over the numbers that have
  timed out and the queue to `send_handler`. On each part of
  the way one thread moves it on, and a bounded number of
  turns of that thread is enough, whatever the others do: the
  queue puts the least number first, and the numbers in front
  of this one are old ones, of which none are added.

  Main declarations:
    * `Sender.Resolves`
    * `Sender.Awaiting`
    * `Sender.awaiting_step`
    * `Sender.overdue_step`
    * `Sender.queued_step`
    * `Sender.resolved_in_time`
-/

------------------------------------------------------------
-- Awaited Numbers
------------------------------------------------------------

namespace Nkurdt

/- The number on its way from the queue to the socket. -/
def SendPc.fetched? : SendPc → Option Nat
| .lockPool seq => some seq
| .lockAcked seq => some seq
| .checkAcked seq => some seq
| .checkLower seq => some seq
| .readLower seq => some seq
| .readUpper seq _ => some seq
| .retry seq => some seq
| .transmit seq => some seq
| _ => none

/- The number whose event is about to change. -/
def SendPc.settling? : SendPc → Option Nat
| .register seq => some seq
| .removeEvent seq => some seq
| _ => none

namespace Sender

/-
  The steps that end the wait for a number: it is sent, it
  is acknowledged, or its retries are found used up.
-/
def Resolves
    (n : Nat)
    (s : Sender)
    (_ : Action)
    (s' : Sender) : Prop :=
  (∃ packet,
      packet.seq = n ∧
        s'.history.wire =
          s.history.wire ++ [(s.peerAddr, packet)]) ∨
    n < s'.window.lowerBound ∨
    (s'.selectiveRepeat = true ∧ n ∈ s'.ackedSeqSet) ∨
    s'.history.exhausted = s.history.exhausted ++ [n]

/- The bounds do not wrap, and nobody stops the timer. -/
def Unstopped (s : Sender) (_ : Action) (s' : Sender) : Prop :=
  NoWrap s s' ∧ s'.timer.running = true

instance (s : Sender) (action : Action) (s' : Sender) :
    Decidable (Unstopped s action s') :=
  inferInstanceAs (Decidable (_ ∧ _))

/-
  The lowest number of the window is outstanding, its packet
  is in the pool, and `send_handler` is not about to change
  its event. Not more than `b` places below it are taken in
  the queue and in the timer.
-/
structure Awaiting (n b : Nat) (s : Sender) : Prop where
  recorded : Recorded s
  rising : Rising s
  timer : HasTimerRun s
  lowest : s.window.lowerBound = n
  upper : n < s.window.upperBound
  unacked :
    ¬ (s.selectiveRepeat = true ∧ n ∈ s.ackedSeqSet)
  stored : s.packetPool n ≠ none
  settled : s.sendPc.settling? ≠ some n
  running : s.timer.running = true
  backlog : s.backlog n ≤ b

/- The turns of the timer's thread. -/
def Action.isTimer : Action → Bool
| .timer => true
| _ => false

/- The turns of one of the other threads. -/
def Action.isOf (thread : Thread) : Action → Bool
| .thread other => decide (other = thread)
| _ => false

theorem Action.isOf_of_ne
    {thread : Thread}
    {action : Action}
    (hOther : action ≠ .thread thread) :
    action.isOf thread = false := by
  cases action with
  | thread other =>
      refine decide_eq_false ?_
      rintro rfl
      exact hOther rfl
  | _ => rfl

/- Only `send_handler` takes packets out of the pool. -/
theorem stored_of_other
    {s s' : Sender}
    {action : Action}
    {n : Nat}
    (hStep : s.step action = some s')
    (hOther : action ≠ .thread .sendHandler)
    (hStored : s.packetPool n ≠ none) :
    s'.packetPool n ≠ none := by
  cases action with
  | call call =>
      rw [(callStep_keeps hStep).packetPool]
      exact hStored
  | thread thread =>
      cases thread with
      | caller =>
          cases callerStep_branch hStep with
          | emplaces =>
              dsimp only
              rw [UnorderedMap.emplace_apply]
              split_ifs
              · exact Option.some_ne_none _
              · exact hStored
          | _ => exact hStored
      | sendHandler => exact absurd rfl hOther
      | recvHandler =>
          rw [(recvHandlerStep_keeps hStep).packetPool]
          exact hStored
      | timeoutHandler =>
          rw [(timeoutHandlerStep_keeps hStep).packetPool]
          exact hStored
  | timer =>
      rcases Option.map_eq_some_iff.mp hStep with
        ⟨timer, _, rfl⟩
      exact hStored
  | recv result =>
      rw [(recvStep_keeps hStep).packetPool]
      exact hStored
  | tick duration =>
      cases hStep
      exact hStored
  | wakeCaller =>
      cases hStep
      exact hStored
  | wakeTimer =>
      cases hStep
      exact hStored

/-
  `send_handler` neither drops the packet nor touches the
  event of the number before it has sent it.
-/
theorem settled_sendHandlerStep
    {s s' : Sender}
    {n b : Nat}
    (hAwaiting : Awaiting n b s)
    (hStep : s.sendHandlerStep = some s') :
    Resolves n s (.thread .sendHandler) s' ∨
      s'.packetPool n ≠ none ∧
        s'.sendPc.settling? ≠ some n := by
  have hStored := hAwaiting.stored
  cases sendHandlerStep_branch hStep with
  | @cleansAcked seq hPc hAcked =>
      have hOther : n ≠ seq := by
        rintro rfl
        exact hAwaiting.unacked hAcked
      refine Or.inr ⟨?_, ?_⟩
      · unfold cleanUp
        dsimp only
        rw [UnorderedMap.erase_apply, if_neg hOther]
        exact hStored
      · exact fun hNext => hOther (Option.some.inj hNext).symm
  | @cleansBelow seq hPc hBelow =>
      have hOther : n ≠ seq := by
        rintro rfl
        exact hBelow.ne hAwaiting.lowest.symm
      refine Or.inr ⟨?_, ?_⟩
      · unfold cleanUp
        dsimp only
        rw [UnorderedMap.erase_apply, if_neg hOther]
        exact hStored
      · exact fun hNext => hOther (Option.some.inj hNext).symm
  | @transmits seq packet hPc hPacket =>
      by_cases hNumber : seq = n
      · subst hNumber
        have hOriginals :=
          hAwaiting.recorded.disciplined.originals
        exact Or.inl (Or.inl ⟨packet,
          hOriginals.seq_eq (hOriginals.pool seq packet hPacket),
          rfl⟩)
      · refine Or.inr ⟨hStored, ?_⟩
        exact fun hNext => hNumber (Option.some.inj hNext)
  | @findsNone seq hPc hAbsent =>
      refine Or.inr ⟨hStored, ?_⟩
      intro hNext
      rw [Option.some.inj hNext] at hAbsent
      exact hStored hAbsent
  | _ =>
      exact Or.inr ⟨hStored, fun hNext => by cases hNext⟩

/- A step resolves the number or leaves it awaited. -/
theorem awaiting_step
    {s s' : Sender}
    {action : Action}
    {n b : Nat}
    (hAwaiting : Awaiting n b s)
    (hStep : s.step action = some s')
    (hUnstopped : Unstopped s action s') :
    Resolves n s action s' ∨ Awaiting n b s' := by
  rcases hUnstopped with ⟨hWrap, hRunning⟩
  by_cases hPassed : n < s'.window.lowerBound
  · exact Or.inl (Or.inr (Or.inl hPassed))
  by_cases hAcked :
      s'.selectiveRepeat = true ∧ n ∈ s'.ackedSeqSet
  · exact Or.inl (Or.inr (Or.inr (Or.inl hAcked)))
  have hLower := hWrap.lower
  have hUpper := hWrap.upper
  have hLowest := hAwaiting.lowest
  have hBelow := hAwaiting.upper
  have hKept :
      Resolves n s action s' ∨
        s'.packetPool n ≠ none ∧
          s'.sendPc.settling? ≠ some n := by
    by_cases hSend : action = .thread .sendHandler
    · subst hSend
      exact settled_sendHandlerStep hAwaiting hStep
    · right
      rw [(sendHandler_of_other hStep hSend).1]
      exact ⟨stored_of_other hStep hSend hAwaiting.stored,
        hAwaiting.settled⟩
  refine hKept.imp_right ?_
  rintro ⟨hStored, hSettled⟩
  have hBacklog :=
    backlog_step_le hAwaiting.rising hLowest.ge hBelow hStep
  exact
    { recorded := recorded_step hAwaiting.recorded hStep hWrap
      rising :=
        rising_step hAwaiting.recorded.disciplined
          hAwaiting.rising hStep hWrap
      timer := hasTimerRun_step hAwaiting.timer hStep
      lowest := by omega
      upper := by omega
      unacked := hAcked
      stored := hStored
      settled := hSettled
      running := hRunning
      backlog := hBacklog.trans hAwaiting.backlog }

end Sender

end Nkurdt

------------------------------------------------------------
-- In the Timer
------------------------------------------------------------

namespace Nkurdt

namespace Sender

open ConcurrentTimer

/- The number is registered for a deadline that has passed. -/
structure Overdue (n tp : Nat) (s : Sender) : Prop where
  registered : s.timer.registeredEvents n = some tp
  due : tp ≤ s.clock

/- The turns of the timer's thread that are left. -/
def timerLeft (n tp : Nat) (s : Sender) : Nat :=
  s.timer.events.place tp n +
    TimerSystem.turnsTo tp s.timer.threadPc

theorem timerLeft_eq
    {n tp : Nat}
    {s : Sender}
    {t : TimerSystem Nat}
    (hLinked : Linked s t) :
    TimerSystem.left n tp t = s.timerLeft n tp := by
  unfold TimerSystem.left timerLeft
  rw [hLinked.timer]

/- A step of `stop` is not one of a timer that runs. -/
theorem running_of_stop
    {t t' : TimerSystem Nat}
    (hStopping : t.Stopping)
    (hStep : t.step .stop = some t') :
    t'.timer.running = false := by
  have hNext := TimerSystem.stopping_step hStopping hStep
  apply hNext
  change t.stopStep = some t' at hStep
  unfold TimerSystem.stopStep at hStep
  split at hStep
  · rcases TimerSystem.whenFree_eq_some.mp hStep with ⟨_, rfl⟩
    exact fun hIdle => by cases hIdle
  · cases hStep
    exact fun hIdle => by cases hIdle
  · split_ifs at hStep
    cases hStep
    exact fun hIdle => by cases hIdle
  · cases hStep

/- What expires is among the numbers that have timed out. -/
theorem timedOut_of_expires
    {t t' : TimerSystem Nat}
    {n : Nat}
    (hExpires : t.Expires .thread n)
    (hStep : t.step .thread = some t') :
    n ∈ t'.timer.timedOutEvents := by
  rcases hExpires with ⟨_, last, tp, hPc, hFirst, hDue⟩
  change (t.timer.threadStep t.clock).map _ = some t' at hStep
  unfold ConcurrentTimer.threadStep at hStep
  rw [hPc] at hStep
  dsimp only at hStep
  rw [hFirst] at hStep
  dsimp only at hStep
  rw [if_pos hDue] at hStep
  cases hStep
  exact List.mem_insert_self

/-
  An overdue number times out, or it stays overdue, and the
  turns of the timer's thread bring it nearer.
-/
theorem overdue_step
    {s s' : Sender}
    {action : Action}
    {n b tp : Nat}
    (hAwaiting : Awaiting n b s)
    (hOverdue : Overdue n tp s)
    (hStep : s.step action = some s')
    (hRunning : s'.timer.running = true) :
    n ∈ s'.timer.timedOutEvents ∨
      Overdue n tp s' ∧
        s'.timerLeft n tp + action.isTimer.toNat ≤
          s.timerLeft n tp := by
  rcases hAwaiting.timer with ⟨t, hLinked, hReach⟩
  have hBefore : TimerSystem.Overdue n tp t := by
    refine ⟨TimerSystem.kept_of_reaches hReach,
      TimerSystem.awake_of_reaches hReach, ?_, ?_, ?_⟩
    · rw [hLinked.timer]
      exact hOverdue.registered
    · rw [hLinked.clock]
      exact hOverdue.due
    · rw [hLinked.timer]
      exact hAwaiting.running
  rcases linked_step hLinked hStep with
    ⟨t', hNext, ⟨hSame, hOther⟩ | ⟨operation, hUse, hMove⟩⟩
  · rw [hSame] at hNext
    refine Or.inr ⟨⟨?_, ?_⟩, ?_⟩
    · rw [← hNext.timer]
      exact hBefore.registered
    · rw [← hNext.clock]
      exact hBefore.due
    · have hNoTurn : action.isTimer = false := by
        cases action with
        | timer => exact absurd rfl hOther
        | _ => rfl
      rw [← timerLeft_eq hNext, ← timerLeft_eq hLinked,
        hNoTurn]
      exact le_rfl
  · have hUndisturbed :
        TimerSystem.Undisturbed n operation := by
      cases hUse with
      | @registers seq hPc =>
          refine ⟨?_, Int.natCast_nonneg _⟩
          rintro rfl
          exact hAwaiting.settled (by rw [hPc]; rfl)
      | @removes seq hPc =>
          rintro rfl
          exact hAwaiting.settled (by rw [hPc]; rfl)
      | stops =>
          have hStopped :=
            running_of_stop hLinked.stopping hMove
          rw [hNext.timer, hRunning] at hStopped
          cases hStopped
      | _ => trivial
    have hTurn :
        decide (operation = .thread) = action.isTimer := by
      cases hUse <;> rfl
    rcases TimerSystem.left_step hBefore hMove hUndisturbed
      with hExpires | ⟨hAfter, hLess⟩
    · left
      have hThread := hExpires.1
      subst hThread
      rw [← hNext.timer]
      exact timedOut_of_expires hExpires hMove
    · right
      rw [timerLeft_eq hNext, timerLeft_eq hLinked, hTurn]
        at hLess
      refine ⟨⟨?_, ?_⟩, hLess⟩
      · rw [← hNext.timer]
        exact hAfter.registered
      · rw [← hNext.clock]
        exact hAfter.due

end Sender

end Nkurdt

------------------------------------------------------------
-- Among the Numbers That Have Timed Out
------------------------------------------------------------

namespace Nkurdt

/- The turns of `timeout_handler` up to its push. -/
def TimeoutPc.toMap : TimeoutPc → Nat
| .test => 6
| .wait => 5
| .readUpper => 4
| .lockQueue => 3
| .lockWindow => 2
| .map => 1
| .unlockWindow => 8
| .unlockQueue => 7
| .exit => 0

theorem TimeoutPc.toMap_le (pc : TimeoutPc) : pc.toMap ≤ 8 := by
  cases pc <;> decide

namespace Sender

open ConcurrentTimer

/- The number is in the queue or on its way from there. -/
def Queued (s : Sender) (n : Nat) : Prop :=
  n ∈ s.pendingQueue ∨ s.sendPc.fetched? = some n

/- `send_handler` takes back no event that it leaves alone. -/
theorem mem_timedOutEvents_sendHandlerStep
    {s s' : Sender}
    {n : Nat}
    (hSettled : s.sendPc.settling? ≠ some n)
    (hTimedOut : n ∈ s.timer.timedOutEvents)
    (hStep : s.sendHandlerStep = some s') :
    n ∈ s'.timer.timedOutEvents := by
  cases sendHandlerStep_branch hStep with
  | registers =>
      dsimp only
      rw [registerEvent_eq, timedOutEvents_registerAt]
      exact hTimedOut
  | @removes seq hPc =>
      have hOther : n ≠ seq := by
        rintro rfl
        exact hSettled (by rw [hPc]; rfl)
      dsimp only
      rw [timedOutEvents_removeEvent]
      split_ifs
      · exact hTimedOut
      · exact (List.mem_erase_of_ne hOther).mpr hTimedOut
  | _ => exact hTimedOut

/- Only `timeout_handler` clears what has timed out. -/
theorem timedOut_of_other
    {s s' : Sender}
    {action : Action}
    {n : Nat}
    (hSettled : s.sendPc.settling? ≠ some n)
    (hTimedOut : n ∈ s.timer.timedOutEvents)
    (hStep : s.step action = some s')
    (hOther : action ≠ .thread .timeoutHandler) :
    n ∈ s'.timer.timedOutEvents ∧
      s'.timeoutPc = s.timeoutPc := by
  cases action with
  | call call =>
      have hKeeps := callStep_keeps hStep
      rw [hKeeps.timer]
      exact ⟨hTimedOut, hKeeps.timeoutPc⟩
  | thread thread =>
      cases thread with
      | caller =>
          refine ⟨?_, (callerStep_keeps hStep).timeoutPc⟩
          cases callerStep_branch hStep with
          | notifiesTimer =>
              dsimp only
              rw [(notifyOne_frame s.timer).2.2.1]
              exact hTimedOut
          | _ => exact hTimedOut
      | sendHandler =>
          refine ⟨?_, (sendHandlerStep_keeps hStep).timeoutPc⟩
          exact mem_timedOutEvents_sendHandlerStep hSettled
            hTimedOut hStep
      | recvHandler =>
          have hKeeps := recvHandlerStep_keeps hStep
          rw [hKeeps.timer]
          exact ⟨hTimedOut, hKeeps.timeoutPc⟩
      | timeoutHandler => exact absurd rfl hOther
  | timer =>
      rcases Option.map_eq_some_iff.mp hStep with
        ⟨timer, hThread, rfl⟩
      refine ⟨?_, rfl⟩
      cases threadMove_threadStep hThread with
      | moves pc hNext =>
          subst hNext
          exact hTimedOut
      | expires last tp event _ _ _ hNext =>
          subst hNext
          exact List.mem_insert_of_mem hTimedOut
  | recv result =>
      have hKeeps := recvStep_keeps hStep
      rw [hKeeps.timer]
      exact ⟨hTimedOut, hKeeps.timeoutPc⟩
  | tick duration =>
      cases hStep
      exact ⟨hTimedOut, rfl⟩
  | wakeCaller =>
      cases hStep
      exact ⟨hTimedOut, rfl⟩
  | wakeTimer =>
      cases hStep
      refine ⟨?_, rfl⟩
      dsimp only
      rw [(notifyOne_frame s.timer).2.2.1]
      exact hTimedOut

/-
  A number that has timed out is queued, or it stays where it
  is, and the turns of `timeout_handler` bring it nearer.
-/
theorem timedOut_step
    {s s' : Sender}
    {action : Action}
    {n b : Nat}
    (hAwaiting : Awaiting n b s)
    (hTimedOut : n ∈ s.timer.timedOutEvents)
    (hStep : s.step action = some s') :
    s'.Queued n ∨
      n ∈ s'.timer.timedOutEvents ∧
        s'.timeoutPc.toMap +
            (action.isOf .timeoutHandler).toNat ≤
          s.timeoutPc.toMap := by
  by_cases hTimeout : action = .thread .timeoutHandler
  · subst hTimeout
    cases timeoutHandlerStep_branch hStep with
    | givesUp _ hNone =>
        exact absurd (List.ne_nil_of_mem hTimedOut) hNone
    | maps =>
        exact Or.inl (Or.inl
          (ConcurrentQueue.mem_pushAll.mpr
            (Or.inr hTimedOut)))
    | _ hPc =>
        right
        rw [hPc]
        refine ⟨hTimedOut, ?_⟩
        dsimp only
        decide
  · obtain ⟨hStill, hPc⟩ :=
      timedOut_of_other hAwaiting.settled hTimedOut hStep
        hTimeout
    right
    rw [hPc, Action.isOf_of_ne hTimeout]
    exact ⟨hStill, le_rfl⟩

end Sender

end Nkurdt

------------------------------------------------------------
-- In the Queue
------------------------------------------------------------

namespace Nkurdt

namespace SendPc

/- The turns of `send_handler` up to its next pop. -/
def toPop : SendPc → Nat
| .lockPool _ => 13
| .lockAcked _ => 12
| .checkAcked _ => 11
| .checkLower _ => 10
| .readLower _ => 9
| .readUpper _ _ => 8
| .retry _ => 7
| .lockState _ => 6
| .exhausted _ => 5
| .unlockState _ => 4
| .transmit _ => 5
| .register _ => 4
| .removeEvent _ => 4
| .unlockAcked _ => 3
| .unlockPool _ => 2
| .test => 1
| .pop => 0
| .exit => 0

/- The turns up to the transmission of a fetched number. -/
def toTransmit : SendPc → Nat
| .lockPool _ => 8
| .lockAcked _ => 7
| .checkAcked _ => 6
| .checkLower _ => 5
| .readLower _ => 4
| .readUpper _ _ => 3
| .retry _ => 2
| .transmit _ => 1
| _ => 0

theorem toPop_le (pc : SendPc) : pc.toPop ≤ 13 := by
  unfold toPop
  split <;> omega

theorem toTransmit_le (pc : SendPc) : pc.toTransmit ≤ 8 := by
  unfold toTransmit
  split <;> omega

end SendPc

namespace Sender

/-
  The turns of `send_handler` that are left: fourteen for
  each old number that it may come to first.
-/
def queueLeft (n : Nat) (s : Sender) : Nat :=
  (if s.sendPc.fetched? = some n then
      s.sendPc.toTransmit
    else
      s.sendPc.toPop + 9) +
    14 * s.backlog n

theorem queueLeft_le
    (n : Nat)
    (s : Sender) :
    s.queueLeft n ≤ 22 + 14 * s.backlog n := by
  have hPop := s.sendPc.toPop_le
  have hTransmit := s.sendPc.toTransmit_le
  unfold queueLeft
  split_ifs <;> omega

/- A step of `send_handler` that leaves the queue alone. -/
theorem queued_of_moves
    {s s' : Sender}
    {n : Nat}
    (hQueued : s.Queued n)
    (hQueue : s'.pendingQueue = s.pendingQueue)
    (hBacklog : s'.backlog n ≤ s.backlog n)
    (hFetched :
      s.sendPc.fetched? = some n →
        s'.sendPc.fetched? = some n ∧
          s'.sendPc.toTransmit + 1 ≤ s.sendPc.toTransmit)
    (hOther :
      s.sendPc.fetched? ≠ some n →
        s'.sendPc.fetched? ≠ some n ∧
          s'.sendPc.toPop + 1 ≤ s.sendPc.toPop) :
    s'.Queued n ∧ s'.queueLeft n + 1 ≤ s.queueLeft n := by
  by_cases hHere : s.sendPc.fetched? = some n
  · rcases hFetched hHere with ⟨hStill, hLess⟩
    refine ⟨Or.inr hStill, ?_⟩
    unfold queueLeft
    rw [if_pos hHere, if_pos hStill]
    omega
  · rcases hOther hHere with ⟨hStill, hLess⟩
    refine ⟨Or.inl ?_, ?_⟩
    · rw [hQueue]
      exact hQueued.resolve_right hHere
    · unfold queueLeft
      rw [if_neg hHere, if_neg hStill]
      omega

/- The pop takes the number itself, or an old one. -/
theorem queued_of_pop
    {s : Sender}
    {n seq : Nat}
    {rest : ConcurrentQueue Nat}
    (hQueued : s.Queued n)
    (hPc : s.sendPc = .pop)
    (hPop : s.pendingQueue.pop? = some (seq, rest)) :
    ∀ s' : Sender,
      s'.pendingQueue = rest →
      s'.sendPc = .lockPool seq →
      s'.backlog n + (decide (seq < n)).toNat =
        s.backlog n →
      s'.Queued n ∧ s'.queueLeft n + 1 ≤ s.queueLeft n := by
  intro s' hRest hNext hBacklog
  have hMember : n ∈ s.pendingQueue := by
    refine hQueued.resolve_right ?_
    rw [hPc]
    exact fun hFetched => by cases hFetched
  have hBefore : s.sendPc.fetched? ≠ some n := by
    rw [hPc]
    exact fun hFetched => by cases hFetched
  unfold queueLeft
  rw [if_neg hBefore, hPc, hNext]
  rcases (ConcurrentQueue.mem_of_pop? hPop).mp hMember with
    hSame | hLater
  · have hHere :
        (SendPc.lockPool seq).fetched? = some n :=
      congrArg some hSame.symm
    rw [if_pos hHere]
    refine ⟨Or.inr (by rw [hNext]; exact hHere), ?_⟩
    dsimp only [SendPc.toTransmit, SendPc.toPop]
    omega
  · have hLess : seq < n := by
      unfold ConcurrentQueue.pop? at hPop
      rcases Option.map_eq_some_iff.mp hPop with
        ⟨first, hFirst, hPair⟩
      cases hPair
      have hLeast := (OrderedSet.first?_eq_some hFirst).2
      have hNumber : n ≠ seq :=
        ((OrderedSet.mem_eraseFirst_iff hFirst).mp hLater).2
      exact lt_of_le_of_ne (hLeast n hMember) hNumber.symm
    have hAfter :
        (SendPc.lockPool seq).fetched? ≠ some n := by
      intro hEqual
      exact hLess.ne (Option.some.inj hEqual)
    rw [decide_eq_true hLess, Bool.toNat_true] at hBacklog
    rw [if_neg hAfter]
    refine ⟨Or.inl (by rw [hRest]; exact hLater), ?_⟩
    dsimp only [SendPc.toPop]
    omega

/- A fetched number is sent, or it is one step further. -/
theorem queued_sendHandlerStep
    {s s' : Sender}
    {n b : Nat}
    (hAwaiting : Awaiting n b s)
    (hQueued : s.Queued n)
    (hStep : s.sendHandlerStep = some s') :
    Resolves n s (.thread .sendHandler) s' ∨
      s'.Queued n ∧ s'.queueLeft n + 1 ≤ s.queueLeft n := by
  have hBacklog :=
    backlog_sendHandlerStep_le hAwaiting.rising
      hAwaiting.lowest.ge hStep
  -- A branch that goes on with the number it works on.
  have hGoesOn :
      ∀ seq,
        s.sendPc.fetched? = some seq →
        s'.sendPc.fetched? = some seq →
        s'.pendingQueue = s.pendingQueue →
        s'.sendPc.toTransmit + 1 ≤ s.sendPc.toTransmit →
        s'.sendPc.toPop + 1 ≤ s.sendPc.toPop →
        s'.Queued n ∧
          s'.queueLeft n + 1 ≤ s.queueLeft n := by
    intro seq hBefore hAfter hQueue hTransmit hPop
    apply queued_of_moves hQueued hQueue hBacklog.1
    · exact fun hHere =>
        ⟨hAfter.trans (hBefore.symm.trans hHere), hTransmit⟩
    · exact fun hOther =>
        ⟨fun hHere => hOther
          (hBefore.trans (hAfter.symm.trans hHere)), hPop⟩
  -- A branch that works on no number, or on another one.
  have hPasses :
      s.sendPc.fetched? ≠ some n →
      s'.sendPc.fetched? = none →
      s'.pendingQueue = s.pendingQueue →
      s'.sendPc.toPop + 1 ≤ s.sendPc.toPop →
      s'.Queued n ∧
        s'.queueLeft n + 1 ≤ s.queueLeft n := by
    intro hOther hAfter hQueue hPop
    apply queued_of_moves hQueued hQueue hBacklog.1
    · exact fun hHere => absurd hHere hOther
    · intro _
      refine ⟨?_, hPop⟩
      rw [hAfter]
      exact fun hNone => by cases hNone
  cases sendHandlerStep_branch hStep with
  | pops hPc hPop =>
      exact Or.inr (queued_of_pop hQueued hPc hPop _ rfl rfl
        (hBacklog.2 _ hPc rfl))
  | misses hPc hPop =>
      have hMember : n ∈ s.pendingQueue := by
        refine hQueued.resolve_right ?_
        rw [hPc]
        exact fun hFetched => by cases hFetched
      exact absurd hMember
        (OrderedSet.first?_eq_none
          (Option.map_eq_none_iff.mp hPop) n)
  | @cleansAcked seq hPc hAcked =>
      right
      refine hPasses ?_ rfl rfl
        (by rw [hPc]; exact (by omega : 4 + 1 ≤ 11))
      rw [hPc]
      intro hHere
      cases hHere
      exact hAwaiting.unacked hAcked
  | @cleansBelow seq hPc hBelow =>
      right
      refine hPasses ?_ rfl rfl
        (by rw [hPc]; exact (by omega : 4 + 1 ≤ 10))
      rw [hPc]
      intro hHere
      cases hHere
      exact hBelow.ne hAwaiting.lowest.symm
  | findsEmpty hPc hEmpty =>
      -- The window is not empty.
      have hRead :=
        hAwaiting.recorded.accounted.lowerRead _ _ hPc
      have hLowest := hAwaiting.lowest
      have hUpper := hAwaiting.upper
      omega
  | @usesUp seq count hPc =>
      by_cases hNumber : seq = n
      · subst hNumber
        exact Or.inl (Or.inr (Or.inr (Or.inr rfl)))
      · right
        refine hPasses ?_ rfl rfl (by rw [hPc]; exact le_rfl)
        rw [hPc]
        exact fun hHere => hNumber (Option.some.inj hHere)
  | @transmits seq packet hPc hPacket =>
      by_cases hNumber : seq = n
      · subst hNumber
        have hOriginals :=
          hAwaiting.recorded.disciplined.originals
        exact Or.inl (Or.inl ⟨packet,
          hOriginals.seq_eq
            (hOriginals.pool seq packet hPacket), rfl⟩)
      · right
        refine hPasses ?_ rfl rfl (by rw [hPc]; exact le_rfl)
        rw [hPc]
        exact fun hHere => hNumber (Option.some.inj hHere)
  | @findsNone seq hPc hAbsent =>
      right
      refine hPasses ?_ rfl rfl (by rw [hPc]; exact le_rfl)
      rw [hPc]
      intro hHere
      cases hHere
      exact hAwaiting.stored hAbsent
  | locksPool hPc | locksAcked hPc | findsUnacked hPc
  | findsInside hPc | readsLower hPc | findsOpen hPc
  | retries hPc | starts hPc =>
      right
      refine hGoesOn _ (by rw [hPc]; rfl) rfl rfl ?_ ?_
      · rw [hPc]
        exact le_rfl
      · rw [hPc]
        dsimp only [SendPc.toPop]
        omega
  | _ hPc =>
      right
      refine hPasses ?_ rfl rfl ?_
      · rw [hPc]
        exact fun hHere => by cases hHere
      · rw [hPc]
        dsimp only [SendPc.toPop, notifyState]
        omega

/- Nobody else takes a number from the queue. -/
theorem mem_pendingQueue_of_other
    {s s' : Sender}
    {action : Action}
    {n : Nat}
    (hStep : s.step action = some s')
    (hOther : action ≠ .thread .sendHandler)
    (hQueued : n ∈ s.pendingQueue) :
    n ∈ s'.pendingQueue := by
  cases action with
  | call call =>
      rw [(callStep_keeps hStep).pendingQueue]
      exact hQueued
  | thread thread =>
      cases thread with
      | caller => exact mem_pendingQueue_callerStep hStep hQueued
      | sendHandler => exact absurd rfl hOther
      | recvHandler =>
          exact mem_pendingQueue_recvHandlerStep hStep hQueued
      | timeoutHandler =>
          exact (scheduled_timeoutHandlerStep hStep).1 hQueued
  | timer =>
      rcases Option.map_eq_some_iff.mp hStep with
        ⟨timer, _, rfl⟩
      exact hQueued
  | recv result =>
      rw [(recvStep_keeps hStep).pendingQueue]
      exact hQueued
  | tick duration =>
      cases hStep
      exact hQueued
  | wakeCaller =>
      cases hStep
      exact hQueued
  | wakeTimer =>
      cases hStep
      exact hQueued

/-
  A queued number is resolved, or it stays queued, and the
  turns of `send_handler` bring it nearer to the socket.
-/
theorem queued_step
    {s s' : Sender}
    {action : Action}
    {n b : Nat}
    (hAwaiting : Awaiting n b s)
    (hQueued : s.Queued n)
    (hStep : s.step action = some s') :
    Resolves n s action s' ∨
      s'.Queued n ∧
        s'.queueLeft n + (action.isOf .sendHandler).toNat ≤
          s.queueLeft n := by
  by_cases hSend : action = .thread .sendHandler
  · subst hSend
    exact queued_sendHandlerStep hAwaiting hQueued hStep
  · right
    have hPc := (sendHandler_of_other hStep hSend).1
    have hBacklog :=
      backlog_step_le hAwaiting.rising hAwaiting.lowest.ge
        hAwaiting.upper hStep
    refine ⟨?_, ?_⟩
    · unfold Queued
      rw [hPc]
      exact hQueued.imp_left
        (mem_pendingQueue_of_other hStep hSend)
    · rw [Action.isOf_of_ne hSend]
      unfold queueLeft
      rw [hPc]
      exact Nat.add_le_add_left
        (Nat.mul_le_mul_left 14 hBacklog) _

end Sender

end Nkurdt

------------------------------------------------------------
-- In Time
------------------------------------------------------------

namespace Nkurdt

namespace Sender

open Runs

/- The parts of the way. -/
def AtTimer (n b tp : Nat) (s : Sender) : Prop :=
  Awaiting n b s ∧ Overdue n tp s

def AtTimedOut (n b : Nat) (s : Sender) : Prop :=
  Awaiting n b s ∧ n ∈ s.timer.timedOutEvents

def AtQueue (n b : Nat) (s : Sender) : Prop :=
  Awaiting n b s ∧ s.Queued n

/- The number is behind its deadline. -/
def OnItsWay (s : Sender) (n : Nat) : Prop :=
  (∃ tp, Overdue n tp s) ∨
    n ∈ s.timer.timedOutEvents ∨ s.Queued n

section Parts

variable {s s' : Sender}
variable {action : Action}
variable {n b tp : Nat}

theorem atTimer_step
    (hAt : AtTimer n b tp s)
    (hStep : s.step action = some s')
    (hUnstopped : Unstopped s action s') :
    Resolves n s action s' ∨ AtTimedOut n b s' ∨
      AtTimer n b tp s' ∧
        s'.timerLeft n tp + action.isTimer.toNat ≤
          s.timerLeft n tp := by
  rcases awaiting_step hAt.1 hStep hUnstopped with
    hGoal | hStill
  · exact Or.inl hGoal
  rcases overdue_step hAt.1 hAt.2 hStep hUnstopped.2 with
    hTimedOut | ⟨hAfter, hLess⟩
  · exact Or.inr (Or.inl ⟨hStill, hTimedOut⟩)
  · exact Or.inr (Or.inr ⟨⟨hStill, hAfter⟩, hLess⟩)

theorem atTimedOut_step
    (hAt : AtTimedOut n b s)
    (hStep : s.step action = some s')
    (hUnstopped : Unstopped s action s') :
    Resolves n s action s' ∨ AtQueue n b s' ∨
      AtTimedOut n b s' ∧
        s'.timeoutPc.toMap +
            (action.isOf .timeoutHandler).toNat ≤
          s.timeoutPc.toMap := by
  rcases awaiting_step hAt.1 hStep hUnstopped with
    hGoal | hStill
  · exact Or.inl hGoal
  rcases timedOut_step hAt.1 hAt.2 hStep with
    hQueued | ⟨hAfter, hLess⟩
  · exact Or.inr (Or.inl ⟨hStill, hQueued⟩)
  · exact Or.inr (Or.inr ⟨⟨hStill, hAfter⟩, hLess⟩)

theorem atQueue_step
    (hAt : AtQueue n b s)
    (hStep : s.step action = some s')
    (hUnstopped : Unstopped s action s') :
    Resolves n s action s' ∨
      AtQueue n b s' ∧
        s'.queueLeft n + (action.isOf .sendHandler).toNat ≤
          s.queueLeft n := by
  rcases awaiting_step hAt.1 hStep hUnstopped with
    hGoal | hStill
  · exact Or.inl hGoal
  · exact (queued_step hAt.1 hAt.2 hStep).imp_right
      (fun hAfter => ⟨⟨hStill, hAfter.1⟩, hAfter.2⟩)

end Parts

/- The first part of the way: the deadline is acted on. -/
theorem timedOut_in_time
    {s s' : Sender}
    {n b : Nat}
    {actions : List Action}
    (hAwaiting : Awaiting n b s)
    (hOnItsWay : s.OnItsWay n)
    (hRun : runActions step Unstopped s actions = some s')
    (hTurns :
      (∃ tp, Overdue n tp s) →
        s.timer.events.entries.length + 3 ≤
          actions.countP Action.isTimer) :
    Occurs step Unstopped (Resolves n) s actions ∨
      AtTimedOut n b s' ∨ AtQueue n b s' := by
  let Passed (current : Sender) : Prop :=
    AtTimedOut n b current ∨ AtQueue n b current
  have hPassed :
      ∀ current action next,
        Passed current →
        step current action = some next →
        Unstopped current action next →
        Resolves n current action next ∨ Passed next := by
    rintro current action next (hHere | hHere) hNext hAllowed
    · rcases atTimedOut_step hHere hNext hAllowed with
        hGoal | hAfter | hAfter
      · exact Or.inl hGoal
      · exact Or.inr (Or.inr hAfter)
      · exact Or.inr (Or.inl hAfter.1)
    · exact (atQueue_step hHere hNext hAllowed).imp_right
        (fun hAfter => Or.inr hAfter.1)
  rcases hOnItsWay with ⟨tp, hOverdue⟩ | hPlace
  · have hMember : (tp, n) ∈ s.timer.events.entries := by
      rcases hAwaiting.timer with ⟨t, hLinked, hReach⟩
      have hKept := TimerSystem.kept_of_reaches hReach
      rw [← hLinked.timer]
      apply hKept.consistent.mem_iff.mpr
      rw [hLinked.timer]
      exact hOverdue.registered
    have hLeft :
        s.timerLeft n tp < actions.countP Action.isTimer := by
      have hPlace := OrderedMultimap.place_lt_length hMember
      have hWay :=
        TimerSystem.turnsTo_le tp s.timer.threadPc
      have hEnough := hTurns ⟨tp, hOverdue⟩
      unfold timerLeft
      omega
    have hAt : AtTimer n b tp s := ⟨hAwaiting, hOverdue⟩
    exact occurs_or_passes hAt hRun hLeft
      (fun _ _ _ hHere hNext hAllowed =>
        (atTimer_step hHere hNext hAllowed).imp_right
          (Or.imp_left Or.inl))
      hPassed
  · have hAt : Passed s :=
      hPlace.imp (fun hHere => ⟨hAwaiting, hHere⟩)
        (fun hHere => ⟨hAwaiting, hHere⟩)
    exact occurs_or_keeps hAt hRun hPassed

/- The second part: the number comes to the queue. -/
theorem queued_in_time
    {s s' : Sender}
    {n b : Nat}
    {actions : List Action}
    (hAt : AtTimedOut n b s ∨ AtQueue n b s)
    (hRun : runActions step Unstopped s actions = some s')
    (hTurns :
      9 ≤ actions.countP (Action.isOf .timeoutHandler)) :
    Occurs step Unstopped (Resolves n) s actions ∨
      AtQueue n b s' := by
  have hPassed :
      ∀ current action next,
        AtQueue n b current →
        step current action = some next →
        Unstopped current action next →
        Resolves n current action next ∨
          AtQueue n b next := by
    intro current action next hHere hNext hAllowed
    exact (atQueue_step hHere hNext hAllowed).imp_right
      And.left
  rcases hAt with hTimedOut | hQueued
  · have hLeft :
        s.timeoutPc.toMap <
          actions.countP (Action.isOf .timeoutHandler) :=
      s.timeoutPc.toMap_le.trans_lt hTurns
    exact occurs_or_passes hTimedOut hRun hLeft
      (fun _ _ _ hHere hNext hAllowed =>
        atTimedOut_step hHere hNext hAllowed)
      hPassed
  · exact occurs_or_keeps hQueued hRun hPassed

/- The third part: the number is resolved. -/
theorem sent_in_time
    {s s' : Sender}
    {n b : Nat}
    {actions : List Action}
    (hAt : AtQueue n b s)
    (hRun : runActions step Unstopped s actions = some s')
    (hTurns :
      14 * b + 23 ≤
        actions.countP (Action.isOf .sendHandler)) :
    Occurs step Unstopped (Resolves n) s actions := by
  let Nowhere (_ : Sender) : Prop := False
  have hLeft :
      s.queueLeft n <
        actions.countP (Action.isOf .sendHandler) := by
    have hBound := s.queueLeft_le n
    have hBacklog := hAt.1.backlog
    omega
  have hOccurs :
      Occurs step Unstopped (Resolves n) s actions ∨
        Nowhere s' :=
    occurs_or_passes hAt hRun hLeft
      (fun _ _ _ hHere hNext hAllowed =>
        (atQueue_step hHere hNext hAllowed).imp_right Or.inr)
      (fun _ _ _ hNever => False.elim hNever)
  exact hOccurs.resolve_right id

/- The whole way. -/
theorem resolves_in_time
    {s s' : Sender}
    {n b : Nat}
    {first second third : List Action}
    (hAwaiting : Awaiting n b s)
    (hOnItsWay : s.OnItsWay n)
    (hRun :
      runActions step Unstopped s
        (first ++ (second ++ third)) = some s')
    (hFirst :
      (∃ tp, Overdue n tp s) →
        s.timer.events.entries.length + 3 ≤
          first.countP Action.isTimer)
    (hSecond :
      9 ≤ second.countP (Action.isOf .timeoutHandler))
    (hThird :
      14 * b + 23 ≤
        third.countP (Action.isOf .sendHandler)) :
    Occurs step Unstopped (Resolves n) s
      (first ++ (second ++ third)) := by
  rcases runActions_append hRun with
    ⟨s₁, hRunFirst, hRunRest⟩
  rcases runActions_append hRunRest with
    ⟨s₂, hRunSecond, hRunThird⟩
  rcases timedOut_in_time hAwaiting hOnItsWay hRunFirst
      hFirst with hOccurs | hPlace
  · exact hOccurs.left _
  rcases queued_in_time hPlace hRunSecond hSecond with
    hOccurs | hQueued
  · exact (hOccurs.left _).right hRunFirst
  · exact ((sent_in_time hQueued hRunThird
      hThird).right hRunSecond).right hRunFirst

/-
  The lowest outstanding number does not wait for ever. Once
  its deadline has passed, with its packet in the pool and
  `send_handler` not about to register it again or to remove
  its event, every run contains the step that
  sends its packet, takes its acknowledgement or finds its
  retries used up, as soon as the timer's thread, if it is
  still in charge of the number, has had three turns more
  than there are events, then `timeout_handler` nine turns,
  and then `send_handler` fourteen for each old number in the
  queue or the timer and twenty-three more.
-/
theorem resolved_in_time
    {config : SenderConfig}
    {s : Sender}
    {n : Nat}
    (hReach :
      Reaches step (fun current _ next => NoWrap current next)
        (fresh config) s)
    (hRunning : s.timer.running = true)
    (hOutstanding : s.Outstanding n)
    (hLowest : s.window.lowerBound = n)
    (hStored : s.packetPool n ≠ none)
    (hSettled : s.sendPc.settling? ≠ some n)
    (hOnItsWay : s.OnItsWay n) :
    ∀ first second third s',
      runActions step Unstopped s
          (first ++ (second ++ third)) = some s' →
      ((∃ tp, Overdue n tp s) →
        s.timer.events.entries.length + 3 ≤
          first.countP Action.isTimer) →
      9 ≤ second.countP (Action.isOf .timeoutHandler) →
      14 * s.backlog n + 23 ≤
        third.countP (Action.isOf .sendHandler) →
      Occurs step Unstopped (Resolves n) s
        (first ++ (second ++ third)) := by
  have hAwaiting : Awaiting n (s.backlog n) s :=
    { recorded := recorded_of_reaches hReach
      rising := rising_of_reaches hReach
      timer := hasTimerRun_of_reaches hReach
      lowest := hLowest
      upper := hOutstanding.2.1
      unacked := hOutstanding.2.2
      stored := hStored
      settled := hSettled
      running := hRunning
      backlog := le_rfl }
  intro first second third s' hRun hFirst hSecond hThird
  exact resolves_in_time hAwaiting hOnItsWay hRun hFirst
    hSecond hThird

/- The connection request is repeated after its timeout. -/
theorem resolved_in_time_overdue :
    ∃ s : Sender,
      s.history.wire.length = 1 ∧
        Occurs step Unstopped (Resolves 0) s
          ([Action.timer, .timer, .timer, .timer] ++
            (steps .timeoutHandler 9 ++
              steps .sendHandler 23)) := by
  have hRun :
      ∃ s,
        Reaches step (fun current _ next => NoWrap current next)
          (fresh ⟨1, 2, 1, false, false⟩) s ∧
        (s.history.wire.length = 1 ∧
          s.timer.running = true ∧
          (s.window.lowerBound = 0 ∧ s.window.upperBound = 1 ∧
            s.selectiveRepeat = false) ∧
          s.packetPool 0 ≠ none ∧
          s.sendPc.settling? ≠ some 0 ∧
          (s.timer.registeredEvents 0 = some 1000000 ∧
            1000000 ≤ s.clock) ∧
          s.timer.events.entries.length = 1 ∧
          s.backlog 0 = 0 ∧
          (runActions step Unstopped s
            ([Action.timer, .timer, .timer, .timer] ++
              (steps .timeoutHandler 9 ++
                steps .sendHandler 23))).isSome = true) :=
    exists_reaches_of_runActions
      ([Action.call (.connect ⟨0, 1⟩)] ++ steps .caller 10 ++
        steps .sendHandler 14 ++ [Action.timer, .timer, .timer] ++
        [Action.tick 3000000])
      (by decide +kernel)
  rcases hRun with
    ⟨s, hReach, hSent, hRunning, ⟨hLower, hUpper, hRepeat⟩,
      hStored, hSettled, ⟨hRegistered, hDue⟩, hLength, hBacklog,
      hSome⟩
  rcases Option.isSome_iff_exists.mp hSome with ⟨s', hRest⟩
  have hOutstanding : s.Outstanding 0 := by
    refine ⟨hLower.le, ?_, ?_⟩
    · rw [hUpper]
      exact Nat.zero_lt_one
    · rw [hRepeat]
      exact fun hAcked => Bool.noConfusion hAcked.1
  have hEnough :
      s.timer.events.entries.length + 3 ≤
        [Action.timer, .timer, .timer, .timer].countP
          Action.isTimer := by
    rw [hLength]
    decide
  have hTurns :
      14 * s.backlog 0 + 23 ≤
        (steps .sendHandler 23).countP
          (Action.isOf .sendHandler) := by
    rw [hBacklog]
    decide
  exact ⟨s, hSent,
    resolved_in_time hReach hRunning hOutstanding hLower hStored
      hSettled (Or.inl ⟨1000000, hRegistered, hDue⟩) _ _ _ s'
      hRest (fun _ => hEnough) (by decide) hTurns⟩

end Sender

end Nkurdt
