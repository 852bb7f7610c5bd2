import Nkurdt.Timer.Deadlines

/-
  Stopping the timer.

  `thread_func` tests `running_` before it takes the mutex.
  If `stop` clears it and notifies in between, the thread is
  not waiting yet; it then takes the mutex, finds no event,
  and waits for a notification that has gone by.

  The lock, the test for events and the start of the wait are
  one step, `body`: they are under the mutex, and for the one
  notification that is not, the thread does not wait before
  that step and does behind it.

  Main declarations:
    * `TimerSystem.Lost`
    * `TimerSystem.TooLate`
    * `TimerSystem.Stopping`
    * `TimerSystem.not_lost`
-/

------------------------------------------------------------
-- Missed Notifications
------------------------------------------------------------

namespace Nkurdt

namespace TimerSystem

open ConcurrentTimer

variable {T : Type} [DecidableEq T]

/-
  `stop` is behind its notification, and the thread is in the
  untimed wait although it is to stop.
-/
structure Lost (s : TimerSystem T) : Prop where
  joining : s.stopPc = .join
  waiting : s.timer.threadPc = .waitEvent
  stopped : s.timer.running = false

/-
  The thread comes from its test of `running_` to an empty
  map when the notification has gone by.
-/
structure TooLate
    (s : TimerSystem T)
    (action : Action T) : Prop where
  thread : action = .thread
  joining : s.stopPc = .join
  tested : s.timer.threadPc = .body
  empty : s.timer.events.first? = none

end TimerSystem

namespace ConcurrentTimer

variable {T : Type} [DecidableEq T]

/- A thread that is notified does not wait. -/
omit [DecidableEq T] in
theorem threadPc_notifyOne_ne
    (timer : ConcurrentTimer T) :
    timer.notifyOne.threadPc ≠ .waitEvent := by
  unfold notifyOne
  split
  · exact fun hWait => by cases hWait
  · exact fun hWait => by cases hWait
  · rename_i hWait _
    exact hWait

theorem running_registerAt
    (timer : ConcurrentTimer T)
    (event : T)
    (tp : Nat) :
    (timer.registerAt event tp).running = timer.running := by
  unfold registerAt registerEvent
  dsimp only
  rw [(notifyOne_frame _).2.2.2]
  dsimp only
  split <;> rfl

theorem threadPc_registerAt_ne
    (timer : ConcurrentTimer T)
    (event : T)
    (tp : Nat) :
    (timer.registerAt event tp).threadPc ≠ .waitEvent :=
  threadPc_notifyOne_ne _

theorem running_removeEvent
    (timer : ConcurrentTimer T)
    (event : T) :
    (timer.removeEvent event).running = timer.running := by
  unfold removeEvent
  split <;> rfl

end ConcurrentTimer

end Nkurdt

------------------------------------------------------------
-- Steps of a Timer That Stops
------------------------------------------------------------

namespace Nkurdt

namespace TimerSystem

open ConcurrentTimer
open Runs

variable {T : Type} [DecidableEq T]

/- What a step does for the stopping. -/
inductive StopMove
    (s s' : TimerSystem T) : Action T → Prop
| keeps
    (action : Action T)
    (hStop : s'.stopPc = s.stopPc)
    (hRunning : s'.timer.running = s.timer.running)
    (hPc :
      s'.timer.threadPc = .waitEvent →
        s.timer.threadPc = .waitEvent) :
    StopMove s s' action
| waits
    (hPc : s.timer.threadPc = .body)
    (hFirst : s.timer.events.first? = none)
    (hNext :
      s' =
        { s with
          timer := { s.timer with threadPc := .waitEvent } }) :
    StopMove s s' .thread
| clears
    (hStop : s.stopPc = .idle)
    (hAfter : s'.stopPc = .notify)
    (hRunning : s'.timer.running = false) :
    StopMove s s' .stop
| notifies
    (hStop : s.stopPc = .notify)
    (hAfter : s'.stopPc = .join)
    (hRunning : s'.timer.running = s.timer.running)
    (hPc : s'.timer.threadPc ≠ .waitEvent) :
    StopMove s s' .stop
| returns
    (hStop : s.stopPc = .join)
    (hAfter : s'.stopPc = .returned)
    (hTimer : s'.timer = s.timer) :
    StopMove s s' .stop

theorem stopMove_step
    {s s' : TimerSystem T}
    {action : Action T}
    (hStep : s.step action = some s') :
    StopMove s s' action := by
  cases action with
  | register event timeout =>
      rcases whenFree_eq_some.mp hStep with ⟨_, rfl⟩
      exact .keeps _ rfl
        (running_registerAt s.timer event _)
        (fun hWait =>
          absurd hWait (threadPc_registerAt_ne s.timer event _))
  | remove event =>
      rcases whenFree_eq_some.mp hStep with ⟨_, rfl⟩
      refine .keeps _ rfl (running_removeEvent s.timer event) ?_
      dsimp only
      rw [threadPc_removeEvent]
      exact id
  | map clear =>
      rcases whenFree_eq_some.mp hStep with ⟨_, rfl⟩
      cases clear <;> exact .keeps _ rfl rfl id
  | thread =>
      rcases Option.map_eq_some_iff.mp hStep with
        ⟨timer, hThread, hNext⟩
      subst hNext
      cases threadMove_threadStep hThread with
      | moves pc hNext _ hWait _ =>
          subst hNext
          by_cases hPc : pc = .waitEvent
          · subst hPc
            obtain ⟨hBody, hFirst⟩ := hWait rfl
            exact .waits hBody hFirst rfl
          · exact .keeps _ rfl rfl
              (fun hNow => absurd hNow hPc)
      | expires last tp event _ _ _ hNext =>
          subst hNext
          exact .keeps _ rfl rfl (fun hNow => by cases hNow)
  | stop =>
      change s.stopStep = some s' at hStep
      unfold stopStep at hStep
      cases hStop : s.stopPc with
      | idle =>
          rw [hStop] at hStep
          rcases whenFree_eq_some.mp hStep with ⟨_, rfl⟩
          exact .clears hStop rfl rfl
      | notify =>
          rw [hStop] at hStep
          cases hStep
          exact .notifies hStop rfl
            (notifyOne_frame s.timer).2.2.2
            (threadPc_notifyOne_ne s.timer)
      | join =>
          rw [hStop] at hStep
          dsimp only at hStep
          split_ifs at hStep
          cases hStep
          exact .returns hStop rfl rfl
      | returned =>
          rw [hStop] at hStep
          cases hStep
  | tick duration =>
      cases hStep
      exact .keeps _ rfl rfl id
  | wake =>
      cases hStep
      exact .keeps _ rfl (notifyOne_frame s.timer).2.2.2
        (fun hWait =>
          absurd hWait (threadPc_notifyOne_ne s.timer))

/- A call of `stop` in progress has cleared `running_`. -/
def Stopping (s : TimerSystem T) : Prop :=
  s.stopPc ≠ .idle → s.timer.running = false

theorem stopping_step
    {s s' : TimerSystem T}
    {action : Action T}
    (hStopping : Stopping s)
    (hStep : s.step action = some s') :
    Stopping s' := by
  intro hBusy
  cases stopMove_step hStep with
  | keeps _ hStop hRunning _ =>
      rw [hStop] at hBusy
      rw [hRunning]
      exact hStopping hBusy
  | waits _ _ hNext =>
      subst hNext
      exact hStopping hBusy
  | clears _ _ hRunning => exact hRunning
  | notifies hStop _ hRunning _ =>
      rw [hRunning]
      exact hStopping (by rw [hStop]; exact fun h => by cases h)
  | returns hStop _ hTimer =>
      rw [hTimer]
      exact hStopping (by rw [hStop]; exact fun h => by cases h)

/- Exactly the steps that come too late lose the wake-up. -/
theorem lost_iff_step
    {s s' : TimerSystem T}
    {action : Action T}
    (hStopping : Stopping s)
    (hNotLost : ¬ s.Lost)
    (hStep : s.step action = some s') :
    s'.Lost ↔ s.TooLate action := by
  constructor
  · rintro ⟨hJoin, hWait, hStopped⟩
    cases stopMove_step hStep with
    | keeps _ hStop hRunning hPc =>
        exact absurd
          ⟨hStop.symm.trans hJoin, hPc hWait,
            hRunning.symm.trans hStopped⟩ hNotLost
    | waits hPc hFirst hNext =>
        subst hNext
        exact ⟨rfl, hJoin, hPc, hFirst⟩
    | clears _ hAfter _ =>
        rw [hAfter] at hJoin
        cases hJoin
    | notifies _ _ _ hPc => exact absurd hWait hPc
    | returns _ hAfter _ =>
        rw [hAfter] at hJoin
        cases hJoin
  · rintro ⟨rfl, hJoin, hPc, hFirst⟩
    have hStopped : s.timer.running = false :=
      hStopping (by rw [hJoin]; exact fun h => by cases h)
    have hThread :
        s.timer.threadStep s.clock =
          some { s.timer with threadPc := .waitEvent } := by
      unfold threadStep
      rw [hPc]
      dsimp only
      rw [hFirst]
    change (s.timer.threadStep s.clock).map _ = some s'
      at hStep
    rw [hThread] at hStep
    cases hStep
    exact ⟨hJoin, rfl, hStopped⟩

theorem stopping_of_reaches
    {now : Nat}
    {allowed :
      TimerSystem T → Action T → TimerSystem T → Prop}
    {s : TimerSystem T}
    (hReaches : Reaches step allowed (fresh T now) s) :
    Stopping s :=
  hReaches.invariant
    (show Stopping (fresh T now) from fun hBusy =>
      absurd rfl hBusy)
    (fun _ _ _ hStopping hStep _ =>
      stopping_step hStopping hStep)

/- No wake-up has been missed. -/
def Heard (s : TimerSystem T) : Prop :=
  ¬ s.Lost

/-
  In every run whose thread never comes too late no wake-up
  is missed; and in any run, the steps that miss it are those
  that come too late.
-/
theorem not_lost
    (T : Type)
    [DecidableEq T]
    (now : Nat) :
    (∀ s : TimerSystem T,
      Reaches step
        (fun current action _ => ¬ current.TooLate action)
        (fresh T now) s →
      ¬ s.Lost) ∧
    (∀ (s s' : TimerSystem T) action,
      Reaches step (fun _ _ _ => True) (fresh T now) s →
      ¬ s.Lost →
      s.step action = some s' →
      (s'.Lost ↔ s.TooLate action)) := by
  refine ⟨?_, ?_⟩
  · intro s hReaches
    have hFresh : Heard (fresh T now) :=
      fun hLost => by cases hLost.joining
    have hHeard : Heard s :=
      hReaches.invariant_of_known
        (fun _ hReached => stopping_of_reaches hReached)
        hFresh
        (fun _ _ _ hStopping _ hHeard hStep hInTime hLost =>
          hInTime
            ((lost_iff_step hStopping hHeard hStep).mp hLost))
    exact hHeard
  · intro s s' action hReaches hNotLost hStep
    exact lost_iff_step (stopping_of_reaches hReaches)
      hNotLost hStep

instance (s : TimerSystem T) (action : Action T) :
    Decidable (s.TooLate action) :=
  decidable_of_iff
    (action = .thread ∧ s.stopPc = .join ∧
      s.timer.threadPc = .body ∧
      s.timer.events.first?.isNone = true)
    ⟨fun h => ⟨h.1, h.2.1, h.2.2.1, by simpa using h.2.2.2⟩,
      fun h => ⟨h.thread, h.joining, h.tested,
        by simpa using h.empty⟩⟩

/- A timer that is stopped while its thread waits. -/
theorem not_lost_waiting :
    ∃ s : TimerSystem Nat,
      Reaches step
        (fun current action _ => ¬ current.TooLate action)
        (fresh Nat 0) s ∧
      s.stopPc = .join ∧ ¬ s.Lost := by
  have hRun :
      ∃ s : TimerSystem Nat,
        Reaches step
          (fun current action _ => ¬ current.TooLate action)
          (fresh Nat 0) s ∧
        s.stopPc = .join :=
    exists_reaches_of_runActions
      [.thread, .thread, .stop, .stop, .thread]
      (by decide +kernel)
  obtain ⟨s, hReaches, hJoin⟩ := hRun
  exact ⟨s, hReaches, hJoin, (not_lost Nat 0).1 s hReaches⟩

/-
  The thread has tested `running_` when `stop` clears it and
  notifies. It waits for good, and so does `stop`.
-/
theorem exists_lost :
    ∃ s : TimerSystem Nat,
      Reaches step (fun _ _ _ => True) (fresh Nat 0) s ∧
      s.Lost ∧
      s.step .thread = none ∧
      s.step .stop = none := by
  have hRun :
      ∃ s : TimerSystem Nat,
        Reaches step (fun _ _ _ => True) (fresh Nat 0) s ∧
        (s.stopPc = .join ∧
          s.timer.threadPc = .waitEvent ∧
          s.timer.running = false ∧
          (s.step .thread).isNone = true ∧
          (s.step .stop).isNone = true) :=
    exists_reaches_of_runActions
      [.thread, .stop, .stop, .thread] (by decide +kernel)
  obtain ⟨s, hReaches, hJoin, hWait, hStopped, hThread, hStop⟩ :=
    hRun
  exact ⟨s, hReaches, ⟨hJoin, hWait, hStopped⟩,
    Option.isNone_iff_eq_none.mp hThread,
    Option.isNone_iff_eq_none.mp hStop⟩

end TimerSystem

end Nkurdt
