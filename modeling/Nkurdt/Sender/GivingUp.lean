import Nkurdt.Sender.Retransmission

/-
  A packet without an acknowledgement is given up.

  In a round of the timer each thread has the turns that
  bring an overdue number to the socket, and then the timeout
  passes. A round sends the packet of the lowest outstanding
  number again, or it ends with the number overdue. So after
  twice as many rounds as there can be transmissions the wait
  for the number is over.

  Main declarations:
    * `Sender.Settled`
    * `Sender.Pending`
    * `Sender.deadlineMove_step`
    * `Sender.FairRound`
    * `Sender.sent_of_fairRound`
    * `Sender.given_up_in_time`
-/

------------------------------------------------------------
-- Deadlines
------------------------------------------------------------

namespace Nkurdt

namespace Sender

open ConcurrentTimer

/- What a step does to the deadline of a number. -/
inductive DeadlineMove
    (s s' : Sender)
    (n : Nat) : Prop
| keeps
    (hSame :
      s'.timer.registeredEvents n = s.timer.registeredEvents n)
| registers
    (hPc : s.sendPc = .register n)
    (hNext :
      s'.timer.registeredEvents n =
        some (s.clock + milliseconds s.timeout))
| forgets
    (hNext : s'.timer.registeredEvents n = none)

/- Only `send_handler` sets deadlines; the clock goes on. -/
theorem deadlineMove_step
    {s s' : Sender}
    {action : Action}
    (hHas : HasTimerRun s)
    (hStep : s.step action = some s')
    (n : Nat) :
    DeadlineMove s s' n ∧ s.clock ≤ s'.clock := by
  rcases hHas with ⟨t, hLinked, _⟩
  rcases linked_step hLinked hStep with
    ⟨t', hNext, ⟨hSame, _⟩ | ⟨operation, hUse, hMove⟩⟩
  · subst hSame
    refine ⟨.keeps ?_, ?_⟩
    · rw [← hNext.timer, hLinked.timer]
    · rw [← hNext.clock, hLinked.clock]
  have hTimer := hNext.timer
  have hClock := hNext.clock
  cases TimerSystem.move_step hMove with
  | registers event timeout hAfter =>
      subst hAfter
      dsimp only at hTimer hClock
      refine ⟨?_, by rw [← hClock, hLinked.clock]⟩
      cases hUse with
      | registers hPc =>
          have hEntry :=
            registeredEvents_registerAt t.timer event n
              (deadline t.clock s.timeout)
          rw [hTimer] at hEntry
          by_cases hNumber : n = event
          · subst hNumber
            rw [if_pos rfl, hLinked.clock,
              deadline_ofNat] at hEntry
            exact .registers hPc hEntry
          · rw [if_neg hNumber, hLinked.timer] at hEntry
            exact .keeps hEntry
  | removes event hAfter =>
      subst hAfter
      dsimp only at hTimer hClock
      refine ⟨?_, by rw [← hClock, hLinked.clock]⟩
      have hEntry :=
        registeredEvents_removeEvent t.timer event n
      rw [hTimer] at hEntry
      by_cases hNumber : n = event
      · rw [if_pos hNumber] at hEntry
        exact .forgets hEntry
      · rw [if_neg hNumber, hLinked.timer] at hEntry
        exact .keeps hEntry
  | maps clear hAfter =>
      subst hAfter
      dsimp only at hTimer hClock
      refine ⟨.keeps ?_, by rw [← hClock, hLinked.clock]⟩
      rw [← hTimer, ← hLinked.timer]
      split_ifs <;> rfl
  | expires last tp event _ _ _ hAfter =>
      subst hAfter
      dsimp only at hTimer hClock
      refine ⟨?_, by rw [← hClock, hLinked.clock]⟩
      have hEntry :
          s'.timer.registeredEvents n =
            if n = event then
              none
            else
              s.timer.registeredEvents n := by
        rw [← hTimer, ← hLinked.timer]
        exact UnorderedMap.erase_apply _ event n
      by_cases hNumber : n = event
      · rw [if_pos hNumber] at hEntry
        exact .forgets hEntry
      · rw [if_neg hNumber] at hEntry
        exact .keeps hEntry
  | quiet _ hQuiet =>
      refine ⟨.keeps ?_, ?_⟩
      · rw [← hTimer, hQuiet.registeredEvents, hLinked.timer]
      · rw [← hClock, ← hLinked.clock]
        exact hQuiet.clock

/- No deadline is further away than the timeout. -/
structure Timely (s : Sender) : Prop where
  timer : HasTimerRun s
  near :
    ∀ n tp, s.timer.registeredEvents n = some tp →
      tp ≤ s.clock + milliseconds s.timeout

theorem timely_fresh
    (config : SenderConfig) :
    Timely (fresh config) :=
  ⟨⟨_, linked_fresh config, .refl⟩,
    fun _ _ hNever => by cases hNever⟩

theorem timely_step
    {s s' : Sender}
    {action : Action}
    (hTimely : Timely s)
    (hStep : s.step action = some s') :
    Timely s' := by
  refine ⟨hasTimerRun_step hTimely.timer hStep, ?_⟩
  intro n tp hEntry
  have hTimeout := (sameConfig_step hStep).timeout
  obtain ⟨hMove, hClock⟩ :=
    deadlineMove_step hTimely.timer hStep n
  rw [hTimeout]
  cases hMove with
  | keeps hSame =>
      rw [hSame] at hEntry
      exact (hTimely.near n tp hEntry).trans
        (Nat.add_le_add_right hClock _)
  | registers _ hNext =>
      rw [hNext] at hEntry
      cases hEntry
      exact Nat.add_le_add_right hClock _
  | forgets hNext =>
      rw [hNext] at hEntry
      cases hEntry

end Sender

end Nkurdt

------------------------------------------------------------
-- The End of the Wait
------------------------------------------------------------

namespace Nkurdt

namespace Sender

/-
  The wait for the number is over: it is acknowledged, or
  its retries were found used up.
-/
def Settled (n : Nat) (s : Sender) : Prop :=
  n < s.window.lowerBound ∨
    (s.selectiveRepeat = true ∧ n ∈ s.ackedSeqSet) ∨
    s.GivenUp n

/- An acknowledged number stays so, or the window passes. -/
theorem acked_step
    {s s' : Sender}
    {action : Action}
    {n : Nat}
    (hReady : WindowReady s)
    (hMode : s.selectiveRepeat = true)
    (hAcked : n ∈ s.ackedSeqSet)
    (hStep : s.step action = some s')
    (hWrap : NoWrap s s') :
    n < s'.window.lowerBound ∨ n ∈ s'.ackedSeqSet := by
  by_cases hRecv : action = .thread .recvHandler
  · subst hRecv
    cases recvHandlerStep_branch hStep with
    | insertsToSlide | insertsToCompare =>
        exact Or.inr (Finset.mem_insert_of_mem hAcked)
    | erases hPc =>
        have hGoBackN := hReady.goBackN (by rw [hPc]; trivial)
        rw [hMode] at hGoBackN
        cases hGoBackN
    | slides =>
        by_cases hNumber : n = s.window.lowerBound
        · left
          have hNext :=
            (SequenceNumber.update_of_le hWrap.lower).1
          change n < SequenceNumber.update s.window.lowerBound
          omega
        · exact Or.inr (Finset.mem_erase.mpr ⟨hNumber, hAcked⟩)
    | _ => exact Or.inr hAcked
  · right
    rw [(step_keeps hStep hRecv).ackedSeqSet]
    exact hAcked

theorem settled_step
    {s s' : Sender}
    {action : Action}
    {n : Nat}
    (hReady : WindowReady s)
    (hSettled : Settled n s)
    (hStep : s.step action = some s')
    (hWrap : NoWrap s s') :
    Settled n s' := by
  rcases hSettled with hPassed | ⟨hMode, hAcked⟩ | hGivenUp
  · exact Or.inl (hPassed.trans_le hWrap.lower)
  · rcases acked_step hReady hMode hAcked hStep hWrap with
      hPassed | hStill
    · exact Or.inl hPassed
    · refine Or.inr (Or.inl ⟨?_, hStill⟩)
      rw [(sameConfig_step hStep).selectiveRepeat]
      exact hMode
  · exact Or.inr (Or.inr (givenUp_step hStep hGivenUp))

end Sender

end Nkurdt

------------------------------------------------------------
-- Pending Numbers
------------------------------------------------------------

namespace Nkurdt

namespace Sender

open ConcurrentTimer

/- `send_packet` takes the newest number in hand. -/
theorem heldBySendPacket_step
    {s s' : Sender}
    {action : Action}
    {n : Nat}
    (hOriginals : Originals s)
    (hStep : s.step action = some s')
    (hHeld : s'.HeldBySendPacket n) :
    s.HeldBySendPacket n ∨ n = s.window.upperBound := by
  rcases hHeld with ⟨t, hAllocated⟩
  by_cases hCaller : action = .thread .caller
  · subst hCaller
    cases callerStep_branch hStep with
    | updatesUpper hPc =>
        have hReserved := hOriginals.reserved _ _ hPc
        cases hAllocated
        exact Or.inr hReserved
    | locksPool hPc | emplaces hPc =>
        cases hAllocated
        exact Or.inl ⟨_, by rw [hPc]; rfl⟩
    | @abandons transfer hPc | @unlocksPool transfer hPc =>
        cases transfer <;> cases hAllocated
    | _ => cases hAllocated
  by_cases hCall : ∃ call, action = .call call
  · rcases hCall with ⟨call, rfl⟩
    rw [(callStep_keeps hStep).allocated] at hAllocated
    cases hAllocated
  · have hKept :=
      callKept_step hStep
        (fun call hAction => hCall ⟨call, hAction⟩) hCaller
    rw [(transfer?_of_wake hKept.callerPc).2.1] at hAllocated
    exact Or.inl ⟨t, hAllocated⟩

/-
  The lowest number of the window, handed over by
  `send_packet`, while the wait for it lasts.
-/
structure Pending (n : Nat) (s : Sender) : Prop where
  recorded : Recorded s
  rising : Rising s
  timely : Timely s
  lowest : s.window.lowerBound = n
  upper : n < s.window.upperBound
  handed : ¬ s.HeldBySendPacket n
  running : s.timer.running = true
  unsettled : ¬ Settled n s

theorem pending_step
    {s s' : Sender}
    {action : Action}
    {n : Nat}
    (hPending : Pending n s)
    (hStep : s.step action = some s')
    (hUnstopped : Unstopped s action s') :
    Settled n s' ∨ Pending n s' := by
  rcases hUnstopped with ⟨hWrap, hRunning⟩
  by_cases hSettled : Settled n s'
  · exact Or.inl hSettled
  have hDisciplined := hPending.recorded.disciplined
  have hLowest := hPending.lowest
  have hBelow := hPending.upper
  have hLower := hWrap.lower
  have hUpper := hWrap.upper
  have hNotPassed : ¬ n < s'.window.lowerBound :=
    fun hPassed => hSettled (Or.inl hPassed)
  refine Or.inr
    { recorded := recorded_step hPending.recorded hStep hWrap
      rising :=
        rising_step hDisciplined hPending.rising hStep hWrap
      timely := timely_step hPending.timely hStep
      lowest := by omega
      upper := by omega
      handed := ?_
      running := hRunning
      unsettled := hSettled }
  intro hHeld
  rcases heldBySendPacket_step hDisciplined.originals hStep
      hHeld with hOld | hNew
  · exact hPending.handed hOld
  · omega

/- Where a pending number is. -/
theorem Pending.scheduled
    {s : Sender}
    {n : Nat}
    (hPending : Pending n s) :
    s.packetPool n ≠ none ∧ s.Scheduled n := by
  have hOutstanding : s.Outstanding n :=
    ⟨hPending.lowest.le, hPending.upper,
      fun hAcked => hPending.unsettled (Or.inr (Or.inl hAcked))⟩
  rcases hPending.recorded.accounted.kept n hOutstanding with
    hHeld | ⟨hStored, hPlace⟩
  · exact absurd hHeld hPending.handed
  · refine ⟨hStored, hPlace.resolve_right ?_⟩
    exact fun hGivenUp =>
      hPending.unsettled (Or.inr (Or.inr hGivenUp))

theorem Pending.awaiting
    {s : Sender}
    {n : Nat}
    (hPending : Pending n s)
    (hSettled : s.sendPc.settling? ≠ some n) :
    Awaiting n (s.backlog n) s where
  recorded := hPending.recorded
  rising := hPending.rising
  timer := hPending.timely.timer
  lowest := hPending.lowest
  upper := hPending.upper
  unacked := fun hAcked =>
    hPending.unsettled (Or.inr (Or.inl hAcked))
  stored := hPending.scheduled.1
  settled := hSettled
  running := hPending.running
  backlog := le_rfl

/- Behind its deadline, and nobody changes its event. -/
def Ready (n : Nat) (s : Sender) : Prop :=
  s.sendPc.settling? ≠ some n ∧ s.OnItsWay n

/-
  A number that is not ready, and whose event nobody is
  about to change, waits for its deadline.
-/
theorem Pending.ready_or_registered
    {s : Sender}
    {n : Nat}
    (hPending : Pending n s)
    (hSettled : s.sendPc.settling? ≠ some n) :
    Ready n s ∨ ∃ tp, s.timer.registeredEvents n = some tp := by
  rcases hPending.scheduled.2 with
    hQueued | (hRegistered | hTimedOut) | hHeld
  · exact Or.inl ⟨hSettled, Or.inr (Or.inr (Or.inl hQueued))⟩
  · exact Or.inr (Option.ne_none_iff_exists'.mp hRegistered)
  · exact Or.inl ⟨hSettled, Or.inr (Or.inl hTimedOut)⟩
  · refine Or.inl ⟨hSettled, Or.inr (Or.inr (Or.inr ?_))⟩
    cases hPc : s.sendPc
    all_goals rw [hPc] at hHeld hSettled
    case register seq => exact absurd hHeld hSettled
    all_goals exact hHeld

end Sender

end Nkurdt

------------------------------------------------------------
-- Transmissions
------------------------------------------------------------

namespace Nkurdt

namespace Sender

open Runs

/- Nothing that has been sent is taken back. -/
theorem transmissions_step
    {s s' : Sender}
    {action : Action}
    (hStep : s.step action = some s')
    (n : Nat) :
    s.transmissions n ≤ s'.transmissions n := by
  by_cases hSend : action = .thread .sendHandler
  · subst hSend
    rcases wire_sendHandlerStep hStep with
      ⟨_, hSame⟩ | ⟨seq, packet, _, _, _, hWire⟩
    · exact (transmissions_of_wire hSame n).ge
    · unfold transmissions
      rw [hWire, List.countP_append]
      exact Nat.le_add_right _ _
  · exact (transmissions_of_wire
      (retries_of_other hStep hSend).1 n).ge

/- The wait is over, or it has cost so many transmissions. -/
def Sent (n c : Nat) (s : Sender) : Prop :=
  Settled n s ∨ Pending n s ∧ c ≤ s.transmissions n

/-
  With what makes it last: once the wait is over, only the
  thread that moves the window could undo it.
-/
structure Spent (n c : Nat) (s : Sender) : Prop where
  ready : WindowReady s
  sent : Sent n c s

theorem Pending.spent
    {s : Sender}
    {n c : Nat}
    (hPending : Pending n s)
    (hSent : c ≤ s.transmissions n) :
    Spent n c s :=
  ⟨hPending.recorded.disciplined.ready,
    Or.inr ⟨hPending, hSent⟩⟩

theorem spent_step
    {s s' : Sender}
    {action : Action}
    {n c : Nat}
    (hSpent : Spent n c s)
    (hStep : s.step action = some s')
    (hUnstopped : Unstopped s action s') :
    Spent n c s' := by
  refine ⟨windowReady_step hSpent.ready hStep, ?_⟩
  rcases hSpent.sent with hSettled | ⟨hPending, hSent⟩
  · exact Or.inl
      (settled_step hSpent.ready hSettled hStep hUnstopped.1)
  · exact (pending_step hPending hStep hUnstopped).imp_right
      (fun hStill =>
        ⟨hStill, hSent.trans (transmissions_step hStep n)⟩)

/- What resolves a number ends the wait or sends it again. -/
theorem spent_of_resolves
    {s s' : Sender}
    {action : Action}
    {n c : Nat}
    (hSpent : Spent n c s)
    (hStep : s.step action = some s')
    (hUnstopped : Unstopped s action s')
    (hResolves : Resolves n s action s') :
    Spent n (c + 1) s' := by
  have hNext := spent_step hSpent hStep hUnstopped
  refine ⟨hNext.ready, ?_⟩
  rcases hSpent.sent with hSettled | ⟨hPending, hSent⟩
  · exact Or.inl
      (settled_step hSpent.ready hSettled hStep hUnstopped.1)
  rcases hResolves with
    ⟨packet, hSeq, hWire⟩ | hPassed | hAcked | hGivenUp
  · refine (pending_step hPending hStep hUnstopped).imp_right
      (fun hStill => ⟨hStill, ?_⟩)
    have hCount :
        s'.transmissions n = s.transmissions n + 1 := by
      unfold transmissions
      rw [hWire, List.countP_append, List.countP_singleton,
        if_pos (decide_eq_true hSeq)]
    omega
  · exact Or.inl (Or.inl hPassed)
  · exact Or.inl (Or.inr (Or.inl hAcked))
  · refine Or.inl (Or.inr (Or.inr ?_))
    unfold GivenUp
    rw [hGivenUp]
    exact List.mem_append_right _ (List.mem_singleton_self n)

theorem spent_of_runActions
    {s s' : Sender}
    {n c : Nat}
    {actions : List Action}
    (hSpent : Spent n c s)
    (hRun : runActions step Unstopped s actions = some s') :
    Spent n c s' :=
  (reaches_of_runActions .refl hRun).invariant hSpent
    (fun _ _ _ hCurrent hNext hAllowed =>
      spent_step hCurrent hNext hAllowed)

/-
  Sent again, or waiting for a deadline that meets the
  limit.
-/
def Resting
    (n c : Nat)
    (limit : Nat → Prop)
    (s : Sender) : Prop :=
  Spent n (c + 1) s ∨
    (Pending n s ∧ c ≤ s.transmissions n) ∧
      s.sendPc.settling? ≠ some n ∧
      ∀ tp, s.timer.registeredEvents n = some tp → limit tp

theorem resting_step
    {s s' : Sender}
    {action : Action}
    {n c : Nat}
    {limit : Nat → Prop}
    (hResting : Resting n c limit s)
    (hStep : s.step action = some s')
    (hUnstopped : Unstopped s action s') :
    Resting n c limit s' := by
  rcases hResting with
    hSpent | ⟨⟨hPending, hSent⟩, hSettled, hLimit⟩
  · exact Or.inl (spent_step hSpent hStep hUnstopped)
  have hSpent := hPending.spent hSent
  rcases awaiting_step (hPending.awaiting hSettled) hStep
      hUnstopped with hResolves | hAwaiting
  · exact Or.inl
      (spent_of_resolves hSpent hStep hUnstopped hResolves)
  have hNext := spent_step hSpent hStep hUnstopped
  rcases hNext.sent with hOver | hStill
  · exact Or.inl ⟨hNext.ready, Or.inl hOver⟩
  refine Or.inr ⟨hStill, hAwaiting.settled, ?_⟩
  intro tp hEntry
  cases (deadlineMove_step hPending.timely.timer hStep n).1 with
  | keeps hSame =>
      rw [hSame] at hEntry
      exact hLimit tp hEntry
  | registers hPc =>
      exact absurd (by rw [hPc]; rfl) hSettled
  | forgets hNone =>
      rw [hNone] at hEntry
      cases hEntry

theorem resting_of_runActions
    {s s' : Sender}
    {n c : Nat}
    {limit : Nat → Prop}
    {actions : List Action}
    (hResting : Resting n c limit s)
    (hRun : runActions step Unstopped s actions = some s') :
    Resting n c limit s' :=
  (reaches_of_runActions .refl hRun).invariant hResting
    (fun _ _ _ hCurrent hNext hAllowed =>
      resting_step hCurrent hNext hAllowed)

end Sender

end Nkurdt

------------------------------------------------------------
-- Rounds of the Timer
------------------------------------------------------------

namespace Nkurdt

namespace Sender

open ConcurrentTimer
open Runs

/- `send_handler` is about to change the event. -/
def Settling (n c : Nat) (s : Sender) : Prop :=
  (Pending n s ∧ c ≤ s.transmissions n) ∧
    s.sendPc.settling? = some n

/- The first turn of `send_handler` does it. -/
theorem settling_step
    {s s' : Sender}
    {action : Action}
    {n c : Nat}
    (hSettling : Settling n c s)
    (hStep : s.step action = some s')
    (hUnstopped : Unstopped s action s') :
    Resting n c (fun _ => True) s' ∨
      Settling n c s' ∧
        (action.isOf .sendHandler).toNat ≤ 0 := by
  rcases hSettling with ⟨⟨hPending, hSent⟩, hHere⟩
  have hNext :=
    spent_step (hPending.spent hSent) hStep hUnstopped
  rcases hNext.sent with hOver | hStill
  · exact Or.inl (Or.inl ⟨hNext.ready, Or.inl hOver⟩)
  by_cases hSend : action = .thread .sendHandler
  · subst hSend
    refine Or.inl (Or.inr ⟨hStill, ?_, fun _ _ => trivial⟩)
    cases sendHandlerStep_branch hStep with
    | registers | removes => exact fun hNever => by cases hNever
    | _ hPc =>
        rw [hPc] at hHere
        cases hHere
  · right
    refine ⟨⟨hStill, ?_⟩, ?_⟩
    · rw [(sendHandler_of_other hStep hSend).1]
      exact hHere
    · rw [Action.isOf_of_ne hSend]
      exact le_rfl

/- In a run with such a turn the number comes to rest. -/
theorem resting_of_turn
    {s s' : Sender}
    {n : Nat}
    {actions : List Action}
    (hPending : Pending n s)
    (hRun : runActions step Unstopped s actions = some s')
    (hTurn :
      0 < actions.countP (Action.isOf .sendHandler)) :
    Resting n (s.transmissions n) (fun _ => True) s' := by
  let Never (_ : Sender) (_ : Action) (_ : Sender) : Prop :=
    False
  have hRest :
      ∀ current action next,
        Resting n (s.transmissions n) (fun _ => True)
          current →
        step current action = some next →
        Unstopped current action next →
        Never current action next ∨
          Resting n (s.transmissions n) (fun _ => True)
            next := by
    intro current action next hHere hStep hAllowed
    exact Or.inr (resting_step hHere hStep hAllowed)
  by_cases hHere : s.sendPc.settling? = some n
  · have hSettling : Settling n (s.transmissions n) s :=
      ⟨⟨hPending, le_rfl⟩, hHere⟩
    let Left (_ : Sender) : Nat := 0
    have hEnough :
        Left s < actions.countP (Action.isOf .sendHandler) :=
      hTurn
    have hOccurs :
        Occurs step Unstopped Never s actions ∨
          Resting n (s.transmissions n) (fun _ => True) s' :=
      occurs_or_passes hSettling hRun hEnough
        (fun _ _ _ hNow hStep hAllowed =>
          Or.inr ((settling_step hNow hStep hAllowed).imp_right
            (fun hStill =>
              ⟨hStill.1, (Nat.zero_add _).le.trans hStill.2⟩)))
        hRest
    rcases hOccurs with
      ⟨_, _, _, _, _, _, _, _, hNever⟩ | hDone
    · exact False.elim hNever
    · exact hDone
  · exact resting_of_runActions
      (Or.inr ⟨⟨hPending, le_rfl⟩, hHere, fun _ _ => trivial⟩)
      hRun

/-
  A round of the timer: its thread, `timeout_handler` and
  `send_handler` have their turns, one behind the other, and
  then the timeout passes. In between anything can happen.
-/
inductive FairRound (n : Nat) (s s' : Sender) : Prop
| made
    {first second third fourth : List Action}
    {middle : Sender}
    (hRun :
      runActions step Unstopped s
        (first ++ (second ++ third)) = some middle)
    (hFirst :
      (∃ tp, Overdue n tp s) →
        s.timer.events.entries.length + 3 ≤
          first.countP Action.isTimer)
    (hSecond :
      9 ≤ second.countP (Action.isOf .timeoutHandler))
    (hThird :
      14 * s.backlog n + 23 ≤
        third.countP (Action.isOf .sendHandler))
    (hRest :
      runActions step Unstopped middle fourth = some s')
    (hPasses :
      middle.clock + milliseconds middle.timeout ≤ s'.clock)

/-
  A round sends the packet again, or it makes the number
  ready for the next one.
-/
theorem sent_of_fairRound
    {s s' : Sender}
    {n : Nat}
    (hPending : Pending n s)
    (hRound : FairRound n s s') :
    Spent n (s.transmissions n + 1) s' ∨
      ¬ Ready n s ∧ Pending n s' ∧
        s.transmissions n ≤ s'.transmissions n ∧
        Ready n s' := by
  have hSpent := hPending.spent (le_refl (s.transmissions n))
  cases hRound with
  | @made first second third fourth middle hRun hFirst hSecond
      hThird hRest hPasses =>
      by_cases hReady : Ready n s
      · left
        have hOccurs :=
          resolves_in_time (hPending.awaiting hReady.1) hReady.2
            hRun hFirst hSecond hThird
        refine spent_of_runActions
          (hOccurs.after hRun hSpent ?_ ?_ ?_) hRest
        · exact fun _ _ _ hNow hStep hAllowed =>
            spent_step hNow hStep hAllowed
        · exact fun _ _ _ hNow hStep hAllowed hGoal =>
            spent_of_resolves hNow hStep hAllowed hGoal
        · exact fun _ _ _ hNow hStep hAllowed =>
            spent_step hNow hStep hAllowed
      have hTurn :
          0 < (first ++ (second ++ third)).countP
            (Action.isOf .sendHandler) := by
        rw [List.countP_append, List.countP_append]
        omega
      rcases resting_of_turn hPending hRun hTurn with
        hAgain | ⟨hMiddle, hSettled, _⟩
      · exact Or.inl (spent_of_runActions hAgain hRest)
      have hResting :
          Resting n (s.transmissions n)
            (fun tp => tp ≤ s'.clock) middle :=
        Or.inr ⟨hMiddle, hSettled,
          fun tp hEntry =>
            (hMiddle.1.timely.near n tp hEntry).trans hPasses⟩
      rcases resting_of_runActions hResting hRest with
        hAgain | ⟨hEnd, hStill, hDue⟩
      · exact Or.inl hAgain
      refine Or.inr ⟨hReady, hEnd.1, hEnd.2, ?_⟩
      rcases hEnd.1.ready_or_registered hStill with
        hNow | ⟨tp, hEntry⟩
      · exact hNow
      · exact ⟨hStill, Or.inl ⟨tp, hEntry, hDue tp hEntry⟩⟩

/- Some rounds, one after another. -/
inductive FairRounds (n : Nat) : Nat → Sender → Sender → Prop
| none
    (s : Sender) :
    FairRounds n 0 s s
| more
    {k : Nat}
    {s t u : Sender}
    (hRounds : FairRounds n k s t)
    (hRound : FairRound n t u) :
    FairRounds n (k + 1) s u

/- The end of the wait is for good. -/
structure Over (n : Nat) (s : Sender) : Prop where
  ready : WindowReady s
  settled : Settled n s

theorem over_of_runActions
    {s s' : Sender}
    {n : Nat}
    {actions : List Action}
    (hOver : Over n s)
    (hRun : runActions step Unstopped s actions = some s') :
    Over n s' :=
  (reaches_of_runActions .refl hRun).invariant hOver
    (fun _ _ _ hCurrent hNext hAllowed =>
      ⟨windowReady_step hCurrent.ready hNext,
        settled_step hCurrent.ready hCurrent.settled hNext
          hAllowed.1⟩)

theorem over_of_fairRound
    {s s' : Sender}
    {n : Nat}
    (hOver : Over n s)
    (hRound : FairRound n s s') :
    Over n s' := by
  cases hRound with
  | made hRun _ _ _ hRest _ =>
      exact over_of_runActions (over_of_runActions hOver hRun)
        hRest

/-
  What the rounds have cost: two of them a transmission, and
  one more if the number is ready.
-/
def Paid (n k : Nat) (s : Sender) : Prop :=
  Over n s ∨
    Pending n s ∧
      (k ≤ 2 * s.transmissions n ∨
        Ready n s ∧ k ≤ 2 * s.transmissions n + 1)

theorem paid_of_fairRound
    {s s' : Sender}
    {n k : Nat}
    (hPaid : Paid n k s)
    (hRound : FairRound n s s') :
    Paid n (k + 1) s' := by
  rcases hPaid with hOver | ⟨hPending, hPrice⟩
  · exact Or.inl (over_of_fairRound hOver hRound)
  rcases sent_of_fairRound hPending hRound with
    ⟨hWindow, hSettled | ⟨hStill, hSent⟩⟩ |
      ⟨hNot, hStill, hSent, hReady⟩
  · exact Or.inl ⟨hWindow, hSettled⟩
  · refine Or.inr ⟨hStill, Or.inl ?_⟩
    rcases hPrice with hLe | ⟨_, hLe⟩
    · omega
    · omega
  · have hLe := hPrice.resolve_right (fun hNow => hNot hNow.1)
    exact Or.inr ⟨hStill, Or.inr ⟨hReady, by omega⟩⟩

theorem paid_of_fairRounds
    {s s' : Sender}
    {n k : Nat}
    (hPaid : Paid n 0 s)
    (hRounds : FairRounds n k s s') :
    Paid n k s' := by
  induction hRounds with
  | none => exact hPaid
  | more _ hRound ih => exact paid_of_fairRound (ih hPaid) hRound

/- The limit of the retries stays the configured one. -/
theorem limited_of_fairRounds
    {config : SenderConfig}
    {s s' : Sender}
    {n k : Nat}
    (hLimited : Limited config s)
    (hRounds : FairRounds n k s s') :
    Limited config s' := by
  have hStep :
      ∀ current action next,
        Limited config current →
        step current action = some next →
        Unstopped current action next →
        Limited config next :=
    fun _ _ _ hNow hNext _ =>
      (sameConfig_step hNext).maxRetryCount.trans hNow
  induction hRounds with
  | none => exact hLimited
  | more _ hRound ih =>
      cases hRound with
      | made hRun _ _ _ hRest _ =>
          have hMiddle :=
            (reaches_of_runActions .refl hRun).invariant
              (ih hLimited) hStep
          exact (reaches_of_runActions .refl hRest).invariant
            hMiddle hStep

theorem timely_of_reaches
    {config : SenderConfig}
    {allowed : Sender → Action → Sender → Prop}
    {s : Sender}
    (hReach : Reaches step allowed (fresh config) s) :
    Timely s :=
  hReach.invariant (timely_fresh config)
    (fun _ _ _ hCurrent hNext _ => timely_step hCurrent hNext)

/-
  A packet is not sent in vain for ever. From every state
  that a run without a wrap reaches, after twice as many
  rounds of the timer as there can be transmissions, and two
  more, the lowest outstanding number is acknowledged, or its
  retries were found used up.
-/
theorem given_up_in_time
    {config : SenderConfig}
    {s : Sender}
    {n : Nat}
    (hReach :
      Reaches step (fun current _ next => NoWrap current next)
        (fresh config) s)
    (hRunning : s.timer.running = true)
    (hLowest : s.window.lowerBound = n)
    (hUpper : n < s.window.upperBound)
    (hHanded : ¬ s.HeldBySendPacket n) :
    ∀ k s', FairRounds n k s s' →
      2 * config.maxRetryCount + 4 ≤ k →
      n < s'.window.lowerBound ∨
        (s'.selectiveRepeat = true ∧ n ∈ s'.ackedSeqSet) ∨
        n ∈ s'.history.exhausted := by
  intro k s' hRounds hEnough
  have hRecorded := recorded_of_reaches hReach
  have hPaid : Paid n 0 s := by
    by_cases hSettled : Settled n s
    · exact Or.inl ⟨hRecorded.disciplined.ready, hSettled⟩
    · refine Or.inr ⟨?_, Or.inl (Nat.zero_le _)⟩
      exact
        { recorded := hRecorded
          rising := rising_of_reaches hReach
          timely := timely_of_reaches hReach
          lowest := hLowest
          upper := hUpper
          handed := hHanded
          running := hRunning
          unsettled := hSettled }
  rcases paid_of_fairRounds hPaid hRounds with
    hOver | ⟨hPending, hPrice⟩
  · exact hOver.settled
  have hLimited : s'.maxRetryCount = config.maxRetryCount :=
    limited_of_fairRounds (limited_of_reaches hReach) hRounds
  have hCount :=
    hPending.recorded.disciplined.counted.transmissions_le n
  rcases hPrice with hLe | ⟨_, hLe⟩
  · omega
  · omega

/- The turns of a round, and how long it ends with waiting. -/
structure Schedule where
  first : List Action
  second : List Action
  third : List Action
  duration : Nat

/- The schedule has the turns that a round needs. -/
def Schedule.Suffices
    (schedule : Schedule)
    (n : Nat)
    (s : Sender) : Prop :=
  (s.timer.registeredEvents n ≠ none →
      s.timer.events.entries.length + 3 ≤
        schedule.first.countP Action.isTimer) ∧
    9 ≤ schedule.second.countP (Action.isOf .timeoutHandler) ∧
    14 * s.backlog n + 23 ≤
      schedule.third.countP (Action.isOf .sendHandler)

instance
    (schedule : Schedule)
    (n : Nat)
    (s : Sender) :
    Decidable (schedule.Suffices n s) :=
  inferInstanceAs (Decidable (_ ∧ _ ∧ _))

def Schedule.play
    (schedule : Schedule)
    (n : Nat)
    (s : Sender) : Option Sender :=
  if schedule.Suffices n s then
    (runActions step Unstopped s
      (schedule.first ++
        (schedule.second ++ schedule.third))).bind
      fun middle =>
        if milliseconds middle.timeout ≤ schedule.duration then
          runActions step Unstopped middle
            [.tick schedule.duration]
        else
          none
  else
    none

theorem fairRound_of_play
    {schedule : Schedule}
    {n : Nat}
    {s s' : Sender}
    (hPlay : schedule.play n s = some s') :
    FairRound n s s' := by
  unfold Schedule.play at hPlay
  split_ifs at hPlay with hSuffices
  obtain ⟨hFirst, hSecond, hThird⟩ := hSuffices
  rcases Option.bind_eq_some_iff.mp hPlay with
    ⟨middle, hRun, hRest⟩
  split_ifs at hRest with hLong
  refine .made hRun ?_ hSecond hThird hRest ?_
  · rintro ⟨tp, hOverdue⟩
    apply hFirst
    rw [hOverdue.registered]
    exact Option.some_ne_none tp
  · rcases runActions_cons hRest with
      ⟨next, hNext, _, hNil⟩
    cases hNext
    cases hNil
    exact Nat.add_le_add_left hLong _

/-
  Nobody answers the connection request, and no retries are
  configured: it is given up.
-/
theorem given_up_in_time_unanswered :
    ∃ s s' : Sender,
      FairRounds 0 4 s s' ∧
        s'.window.lowerBound = 0 ∧
        s'.selectiveRepeat = false ∧
        0 ∈ s'.history.exhausted := by
  let sending : Schedule :=
    ⟨[], steps .timeoutHandler 9, steps .sendHandler 23,
      1000000⟩
  let expiring : Schedule :=
    { sending with first := [.timer, .timer, .timer, .timer] }
  have hRun :
      ∃ s,
        Reaches step (fun current _ next => NoWrap current next)
          (fresh ⟨1, 0, 1, false, false⟩) s ∧
        (s.window.lowerBound = 0 ∧
          0 < s.window.upperBound ∧
          s.callerPc.allocated? = none ∧
          s.timer.running = true ∧
          (((((expiring.play 0 s).bind (sending.play 0)).bind
              (sending.play 0)).bind (sending.play 0)).any
                fun s' =>
                  decide (s'.window.lowerBound = 0 ∧
                    s'.selectiveRepeat = false)) = true) :=
    exists_reaches_of_runActions
      ([Action.call (.connect ⟨0, 1⟩)] ++ steps .caller 10 ++
        steps .sendHandler 14 ++ [Action.tick 1000000])
      (by decide +kernel)
  rcases hRun with
    ⟨s, hReach, hLower, hUpper, hNone, hRunning, hAny⟩
  rcases (Option.any_eq_true _ _).mp hAny with
    ⟨s', hPlays, hEnd⟩
  obtain ⟨hFirst, hMode⟩ := of_decide_eq_true hEnd
  rcases Option.bind_eq_some_iff.mp hPlays with
    ⟨u, hPlays, hFourth⟩
  rcases Option.bind_eq_some_iff.mp hPlays with
    ⟨t, hPlays, hThird⟩
  rcases Option.bind_eq_some_iff.mp hPlays with
    ⟨r, hExpiring, hSecond⟩
  have hRounds : FairRounds 0 4 s s' :=
    (((FairRounds.none s).more
      (fairRound_of_play hExpiring)).more
      (fairRound_of_play hSecond)).more
      (fairRound_of_play hThird) |>.more
      (fairRound_of_play hFourth)
  have hHanded : ¬ s.HeldBySendPacket 0 := by
    rintro ⟨transfer, hHeld⟩
    rw [hNone] at hHeld
    cases hHeld
  have hOver :=
    given_up_in_time hReach hRunning hLower hUpper hHanded 4 s'
      hRounds (by decide)
  refine ⟨s, s', hRounds, hFirst, hMode, ?_⟩
  rcases hOver with hPassed | ⟨hSelective, _⟩ | hGivenUp
  · rw [hFirst] at hPassed
    exact absurd hPassed (Nat.lt_irrefl 0)
  · rw [hMode] at hSelective
    cases hSelective
  · exact hGivenUp

end Sender

end Nkurdt
