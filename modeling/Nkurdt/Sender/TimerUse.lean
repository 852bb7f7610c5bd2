import Nkurdt.Sender.Keeps
import Nkurdt.Timer.Expiry

/-
  The timer inside the sender.

  A step of the sender leaves its timer and the clock alone,
  or it does to them what one action of the timer on its own
  does. `stop` may be called more than once: behind the
  first call, the second finds `running_` cleared and only
  notifies. So what holds of every run of the timer on its
  own holds of the timer of every sender.

  Main declarations:
    * `Sender.TimerUse`
    * `Sender.Linked`
    * `Sender.linked_step`
    * `Sender.timer_reaches`
-/

------------------------------------------------------------
-- Operations on the Timer
------------------------------------------------------------

namespace Nkurdt

namespace Sender

/- What a step of the sender may do to its timer. -/
inductive TimerUse (s : Sender) :
    Action → TimerSystem.Action Nat → Prop
| registers
    {seq : Nat}
    (hPc : s.sendPc = .register seq) :
    TimerUse s (.thread .sendHandler)
      (.register seq s.timeout)
| removes
    {seq : Nat}
    (hPc : s.sendPc = .removeEvent seq) :
    TimerUse s (.thread .sendHandler) (.remove seq)
| maps
    (hPc : s.timeoutPc = .map) :
    TimerUse s (.thread .timeoutHandler) (.map true)
| stops
    (hPc :
      s.callerPc = .stopTimer ∨ s.callerPc = .notifyTimer ∨
        s.callerPc = .joinTimer) :
    TimerUse s (.thread .caller) .stop
| notifies
    (hPc : s.callerPc = .notifyTimer) :
    TimerUse s (.thread .caller) .wake
| turns :
    TimerUse s .timer .thread
| ticks
    (duration : Nat) :
    TimerUse s (.tick duration) (.tick duration)
| wakes :
    TimerUse s .wakeTimer .wake

/- How far a first call of `stop` has come in the timer. -/
def StopAgrees (stopPc : StopPc) : CallerPc → Prop
| .notifyTimer => stopPc = .notify ∨ stopPc = .returned
| .joinTimer => stopPc = .join ∨ stopPc = .returned
| _ => stopPc = .idle ∨ stopPc = .returned

theorem stopAgrees_of_wake
    {stopPc : StopPc}
    {pc pc' : CallerPc}
    (hCaller : pc' = pc ∨ pc' = wake pc)
    (hAgrees : StopAgrees stopPc pc) :
    StopAgrees stopPc pc' := by
  rcases hCaller with rfl | rfl
  · exact hAgrees
  · cases pc <;> exact hAgrees

/- The timer system is in the state of the sender's timer. -/
structure Linked
    (s : Sender)
    (t : TimerSystem Nat) : Prop where
  timer : t.timer = s.timer
  clock : t.clock = s.clock
  agrees : StopAgrees t.stopPc s.callerPc
  stopping : t.Stopping

theorem linked_fresh
    (config : SenderConfig) :
    Linked (fresh config) (TimerSystem.fresh Nat 0) :=
  ⟨rfl, rfl, Or.inl rfl, fun hBusy => absurd rfl hBusy⟩

/- The timer and the clock are left alone. -/
theorem Linked.same
    {s s' : Sender}
    {t : TimerSystem Nat}
    (hLinked : Linked s t)
    (hTimer : s'.timer = s.timer)
    (hClock : s'.clock = s.clock)
    (hAgrees : StopAgrees t.stopPc s'.callerPc) :
    Linked s' t :=
  ⟨hLinked.timer.trans hTimer.symm,
    hLinked.clock.trans hClock.symm, hAgrees,
    hLinked.stopping⟩

/- The timer takes a step of its own. -/
theorem Linked.next
    {s s' : Sender}
    {t t' : TimerSystem Nat}
    {operation : TimerSystem.Action Nat}
    (hLinked : Linked s t)
    (hStep : t.step operation = some t')
    (hTimer : t'.timer = s'.timer)
    (hClock : t'.clock = s'.clock)
    (hAgrees : StopAgrees t'.stopPc s'.callerPc) :
    Linked s' t' :=
  ⟨hTimer, hClock, hAgrees,
    TimerSystem.stopping_step hLinked.stopping hStep⟩

end Sender

end Nkurdt

------------------------------------------------------------
-- Every Step
------------------------------------------------------------

namespace Nkurdt

namespace Sender

open ConcurrentTimer

/- What a step of the sender means for its timer. -/
def Follows
    (s : Sender)
    (action : Action)
    (s' : Sender)
    (t : TimerSystem Nat) : Prop :=
  ∃ t', Linked s' t' ∧
    (t' = t ∧ action ≠ .timer ∨
      ∃ operation, s.TimerUse action operation ∧
        t.step operation = some t')

theorem follows_same
    {s s' : Sender}
    {action : Action}
    {t : TimerSystem Nat}
    (hLinked : Linked s t)
    (hOther : action ≠ .timer)
    (hTimer : s'.timer = s.timer)
    (hClock : s'.clock = s.clock)
    (hAgrees : StopAgrees t.stopPc s'.callerPc) :
    Follows s action s' t :=
  ⟨t, hLinked.same hTimer hClock hAgrees,
    Or.inl ⟨rfl, hOther⟩⟩

/- An operation under the mutex of the timer. -/
theorem whenFree_linked
    {s : Sender}
    {t t' : TimerSystem Nat}
    (hLinked : Linked s t)
    (hFree : s.timer.MutexFree) :
    t.whenFree t' = some t' := by
  rw [TimerSystem.whenFree_eq_some, hLinked.timer]
  exact ⟨hFree, rfl⟩

/- The calls of `stop`. -/
theorem follows_callerStep
    {s s' : Sender}
    {t : TimerSystem Nat}
    (hLinked : Linked s t)
    (hStep : s.callerStep = some s') :
    Follows s (.thread .caller) s' t := by
  have hAgrees := hLinked.agrees
  cases callerStep_branch hStep with
  | stopsTimer hPc hFree =>
      rw [hPc] at hAgrees
      rcases hAgrees with hIdle | hReturned
      · have hNext :
            t.step .stop =
              some
                { t with
                  timer := t.timer.stopRunning
                  stopPc := .notify } := by
          change t.stopStep = _
          unfold TimerSystem.stopStep
          rw [hIdle]
          exact whenFree_linked hLinked hFree
        refine ⟨_, hLinked.next hNext ?_ hLinked.clock
            (Or.inl rfl),
          Or.inr ⟨_, .stops (Or.inl hPc), hNext⟩⟩
        dsimp only
        rw [hLinked.timer]
      · have hStopped : s.timer.running = false := by
          rw [← hLinked.timer]
          exact hLinked.stopping
            (by rw [hReturned]; exact fun h => by cases h)
        refine follows_same hLinked (by simp) ?_ rfl (Or.inr hReturned)
        unfold stopRunning
        dsimp only
        rw [← hStopped]
  | notifiesTimer hPc =>
      rw [hPc] at hAgrees
      rcases hAgrees with hNotify | hReturned
      · have hNext :
            t.step .stop =
              some
                { t with
                  timer := t.timer.notifyOne
                  stopPc := .join } := by
          change t.stopStep = _
          unfold TimerSystem.stopStep
          rw [hNotify]
        refine ⟨_, hLinked.next hNext ?_ hLinked.clock
            (Or.inl rfl),
          Or.inr ⟨_, .stops (Or.inr (Or.inl hPc)), hNext⟩⟩
        dsimp only
        rw [hLinked.timer]
      · have hNext :
            t.step .wake =
              some { t with timer := t.timer.notifyOne } :=
          rfl
        refine ⟨_, hLinked.next hNext ?_ hLinked.clock
            (Or.inr hReturned),
          Or.inr ⟨_, .notifies hPc, hNext⟩⟩
        dsimp only
        rw [hLinked.timer]
  | joinsTimer hPc hExit =>
      rw [hPc] at hAgrees
      rcases hAgrees with hJoin | hReturned
      · have hNext :
            t.step .stop = some { t with stopPc := .returned } := by
          change t.stopStep = _
          unfold TimerSystem.stopStep
          rw [hJoin]
          exact if_pos (by rw [hLinked.timer]; exact hExit)
        exact ⟨_, hLinked.next hNext hLinked.timer hLinked.clock
            (Or.inr rfl),
          Or.inr ⟨_, .stops (Or.inr (Or.inr hPc)), hNext⟩⟩
      · exact follows_same hLinked (by simp) rfl rfl (Or.inr hReturned)
  | @abandons transfer hPc | @unlocksPool transfer hPc =>
      rw [hPc] at hAgrees
      refine follows_same hLinked (by simp) rfl rfl ?_
      cases transfer <;> exact hAgrees
  | _ hPc =>
      rw [hPc] at hAgrees
      exact follows_same hLinked (by simp) rfl rfl hAgrees

/- The operations of `send_handler`. -/
theorem follows_sendHandlerStep
    {s s' : Sender}
    {t : TimerSystem Nat}
    (hLinked : Linked s t)
    (hStep : s.sendHandlerStep = some s') :
    Follows s (.thread .sendHandler) s' t := by
  have hAgrees : StopAgrees t.stopPc s'.callerPc :=
    stopAgrees_of_wake (sendHandlerStep_keeps hStep).callerPc
      hLinked.agrees
  cases sendHandlerStep_branch hStep with
  | @registers seq hPc hFree =>
      have hNext :
          t.step (.register seq s.timeout) =
            some
              { t with
                timer :=
                  t.timer.registerAt seq
                    (deadline t.clock s.timeout)
                latest :=
                  t.latest.assign seq
                    (deadline t.clock s.timeout) } :=
        whenFree_linked hLinked hFree
      refine ⟨_, hLinked.next hNext ?_ hLinked.clock hAgrees,
        Or.inr ⟨_, .registers hPc, hNext⟩⟩
      dsimp only
      rw [registerEvent_eq, deadline_ofNat, hLinked.timer,
        hLinked.clock]
  | @removes seq hPc hFree =>
      have hNext :
          t.step (.remove seq) =
            some
              { t with
                timer := t.timer.removeEvent seq
                latest := t.latest.erase seq } :=
        whenFree_linked hLinked hFree
      refine ⟨_, hLinked.next hNext ?_ hLinked.clock hAgrees,
        Or.inr ⟨_, .removes hPc, hNext⟩⟩
      dsimp only
      rw [hLinked.timer]
  | _ => exact follows_same hLinked (by simp) rfl rfl hAgrees

/- The operation of `timeout_handler`. -/
theorem follows_timeoutHandlerStep
    {s s' : Sender}
    {t : TimerSystem Nat}
    (hLinked : Linked s t)
    (hStep : s.timeoutHandlerStep = some s') :
    Follows s (.thread .timeoutHandler) s' t := by
  cases timeoutHandlerStep_branch hStep with
  | maps hPc hFree =>
      have hNext :
          t.step (.map true) =
            some { t with timer := t.timer.clearTimedOut } :=
        whenFree_linked hLinked hFree
      refine ⟨_, hLinked.next hNext ?_ hLinked.clock
          hLinked.agrees,
        Or.inr ⟨_, .maps hPc, hNext⟩⟩
      dsimp only
      rw [hLinked.timer]
  | _ => exact follows_same hLinked (by simp) rfl rfl hLinked.agrees

/-
  The simulation: the timer of the sender makes the step of
  a timer on its own, or none.
-/
theorem linked_step
    {s s' : Sender}
    {action : Action}
    {t : TimerSystem Nat}
    (hLinked : Linked s t)
    (hStep : s.step action = some s') :
    Follows s action s' t := by
  cases action with
  | call call =>
      have hKeeps := callStep_keeps hStep
      have hAgrees := hLinked.agrees
      rw [hKeeps.idle] at hAgrees
      refine follows_same hLinked (by simp) hKeeps.timer
        hKeeps.clock ?_
      rcases hKeeps.starts with ⟨_, hStart⟩ | hStart
      all_goals
        rw [hStart]
        exact hAgrees
  | thread thread =>
      cases thread with
      | caller => exact follows_callerStep hLinked hStep
      | sendHandler =>
          exact follows_sendHandlerStep hLinked hStep
      | recvHandler =>
          have hKeeps := recvHandlerStep_keeps hStep
          have hClock : s'.clock = s.clock := by
            cases recvHandlerStep_branch hStep <;> rfl
          exact follows_same hLinked (by simp) hKeeps.timer hClock
            (stopAgrees_of_wake hKeeps.callerPc hLinked.agrees)
      | timeoutHandler =>
          exact follows_timeoutHandlerStep hLinked hStep
  | timer =>
      rcases Option.map_eq_some_iff.mp hStep with
        ⟨timer, hThread, rfl⟩
      have hNext :
          t.step .thread = some { t with timer := timer } := by
        change (t.timer.threadStep t.clock).map _ = _
        rw [hLinked.timer, hLinked.clock, hThread]
        rfl
      exact ⟨_, hLinked.next hNext rfl hLinked.clock
          hLinked.agrees,
        Or.inr ⟨_, .turns, hNext⟩⟩
  | recv result =>
      have hKeeps := recvStep_keeps hStep
      exact follows_same hLinked (by simp) hKeeps.timer hKeeps.clock
        (stopAgrees_of_wake hKeeps.callerPc hLinked.agrees)
  | tick duration =>
      cases hStep
      have hNext :
          t.step (.tick duration) =
            some { t with clock := t.clock + duration } :=
        rfl
      refine ⟨_, hLinked.next hNext hLinked.timer ?_
          hLinked.agrees,
        Or.inr ⟨_, .ticks duration, hNext⟩⟩
      dsimp only
      rw [hLinked.clock]
  | wakeCaller =>
      cases hStep
      exact follows_same hLinked (by simp) rfl rfl
        (stopAgrees_of_wake (Or.inr rfl) hLinked.agrees)
  | wakeTimer =>
      cases hStep
      have hNext :
          t.step .wake =
            some { t with timer := t.timer.notifyOne } :=
        rfl
      refine ⟨_, hLinked.next hNext ?_ hLinked.clock
          hLinked.agrees,
        Or.inr ⟨_, .wakes, hNext⟩⟩
      dsimp only
      rw [hLinked.timer]

end Sender

end Nkurdt

------------------------------------------------------------
-- Every Run
------------------------------------------------------------

namespace Nkurdt

namespace Sender

open Runs

/- A run of the timer on its own leads to this timer. -/
def HasTimerRun (s : Sender) : Prop :=
  ∃ t, Linked s t ∧
    Reaches TimerSystem.step (fun _ _ _ => True)
      (TimerSystem.fresh Nat 0) t

theorem hasTimerRun_step
    {s s' : Sender}
    {action : Action}
    (hHas : HasTimerRun s)
    (hStep : s.step action = some s') :
    HasTimerRun s' := by
  rcases hHas with ⟨t, hLinked, hReach⟩
  rcases linked_step hLinked hStep with
    ⟨t', hNext, ⟨hSame, _⟩ | ⟨operation, _, hOperation⟩⟩
  · rw [hSame] at hNext
    exact ⟨t, hNext, hReach⟩
  · exact ⟨t', hNext, hReach.tail hOperation trivial⟩

theorem hasTimerRun_of_reaches
    {config : SenderConfig}
    {allowed : Sender → Action → Sender → Prop}
    {s : Sender}
    (hReach : Reaches step allowed (fresh config) s) :
    HasTimerRun s :=
  hReach.invariant
    (show HasTimerRun (fresh config) from
      ⟨_, linked_fresh config, .refl⟩)
    (fun _ _ _ hHas hStep _ => hasTimerRun_step hHas hStep)

theorem HasTimerRun.awake
    {s : Sender}
    (hHas : HasTimerRun s) :
    s.timer.Awake := by
  rcases hHas with ⟨t, hLinked, hReach⟩
  rw [← hLinked.timer]
  exact TimerSystem.awake_of_reaches hReach

/-
  The timer of every sender is one that a run of the timer
  on its own leads to. So each registered number has one
  deadline, no number has timed out twice, and the thread
  does not sleep over a deadline.
-/
theorem timer_reaches
    {config : SenderConfig}
    {s : Sender}
    (hReach :
      Reaches step (fun _ _ _ => True) (fresh config) s) :
    (∃ t,
      Reaches TimerSystem.step (fun _ _ _ => True)
          (TimerSystem.fresh Nat 0) t ∧
        t.timer = s.timer ∧ t.clock = s.clock) ∧
      (∀ n tp,
        (tp, n) ∈ s.timer.events.entries ↔
          s.timer.registeredEvents n = some tp) ∧
      s.timer.timedOutEvents.Nodup ∧
      s.timer.Awake := by
  have hHas := hasTimerRun_of_reaches hReach
  have hAwake := hHas.awake
  rcases hHas with ⟨t, hLinked, hTimer⟩
  have hKept := TimerSystem.kept_of_reaches hTimer
  have hConsistent := hKept.consistent
  have hNodup := hKept.nodup
  rw [hLinked.timer] at hConsistent hNodup
  exact ⟨⟨t, hTimer, hLinked.timer, hLinked.clock⟩,
    fun n tp => hConsistent.mem_iff, hNodup, hAwake⟩

/- The connection request is sent and watched. -/
theorem timer_reaches_connect :
    ∃ s : Sender,
      s.timer.registeredEvents 0 = some 2000000 ∧
        (2000000, 0) ∈ s.timer.events.entries ∧
        s.timer.Awake := by
  have hRun :
      ∃ s,
        Reaches step (fun _ _ _ => True)
          (fresh ⟨1, 1, 2, false, false⟩) s ∧
        s.timer.registeredEvents 0 = some 2000000 :=
    exists_reaches_of_runActions
      ([Action.call (.connect ⟨0, 1⟩)] ++ steps .caller 10 ++
        steps .sendHandler 12)
      (by decide +kernel)
  rcases hRun with ⟨s, hReach, hRegistered⟩
  have hTimer := timer_reaches hReach
  exact ⟨s, hRegistered,
    (hTimer.2.1 0 2000000).mpr hRegistered, hTimer.2.2.2⟩

end Sender

end Nkurdt
