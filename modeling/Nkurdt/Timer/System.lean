import Nkurdt.Concurrency
import Nkurdt.Library.Runs

/-
  The timer on its own, as a transition system: its public
  operations, its thread, one call of `stop`, and the clock
  in any order.

  Every operation but the notification takes the mutex of
  the timer, so none of them runs while the thread expires
  events. Timeouts may be negative, as those of the program
  may be; a deadline before the origin of the clock is the
  origin.

  Main declarations:
    * `ConcurrentTimer.State`
    * `ConcurrentTimer.queryEvent`
    * `ConcurrentTimer.registerAt`
    * `TimerSystem`
    * `TimerSystem.step`
    * `TimerSystem.handed`
    * `ConcurrentTimer.ThreadMove`
-/

------------------------------------------------------------
-- Queries and Deadlines
------------------------------------------------------------

namespace Nkurdt

namespace ConcurrentTimer

/- `ConcurrentTimer::State`. -/
inductive State where
| unregistered
| normal
| timedOut
deriving DecidableEq

variable {T : Type} [DecidableEq T]

/- `query_event`. -/
def queryEvent
    (timer : ConcurrentTimer T)
    (event : T) : State :=
  if event ∈ timer.timedOutEvents then
    .timedOut
  else if timer.registeredEvents.contains event then
    .normal
  else
    .unregistered

/-
  `register_event` with the deadline it computes: it reads
  the clock for nothing else.
-/
def registerAt
    (timer : ConcurrentTimer T)
    (event : T)
    (tp : Nat) : ConcurrentTimer T :=
  timer.registerEvent event 0 tp

theorem registerEvent_eq
    (timer : ConcurrentTimer T)
    (event : T)
    (timeout now : Nat) :
    timer.registerEvent event timeout now =
      timer.registerAt event (now + milliseconds timeout) :=
  rfl

/- `now` and a timeout, in milliseconds. -/
def deadline (now : Nat) (timeout : Int) : Nat :=
  (now + 1000000 * timeout).toNat

theorem deadline_ofNat
    (now timeout : Nat) :
    deadline now timeout = now + milliseconds timeout := by
  unfold deadline milliseconds
  omega

end ConcurrentTimer

end Nkurdt

------------------------------------------------------------
-- The Transition System
------------------------------------------------------------

namespace Nkurdt

/-
  How far the call of `stop` is: not made, in front of the
  notification, in front of `thread_.join()`, returned.
-/
inductive StopPc where
| idle
| notify
| join
| returned
deriving DecidableEq

/-
  A timer with the clock, the thread that may call `stop`,
  and for every event the deadline of its latest registration
  unless the event has been removed since. No step reads the
  last.
-/
structure TimerSystem (T : Type) where
  timer : ConcurrentTimer T
  clock : Nat
  stopPc : StopPc
  latest : UnorderedMap T Nat

namespace TimerSystem

open ConcurrentTimer

inductive Action (T : Type) where
| register (event : T) (timeout : Int)
| remove (event : T)
| map (clear : Bool)
| thread
| stop
| tick (duration : Nat)
| wake
deriving DecidableEq

variable {T : Type} [DecidableEq T]

/- The timer behind `start`. -/
def fresh (T : Type) (now : Nat) : TimerSystem T :=
  ⟨ConcurrentTimer.make.start, now, .idle, .empty⟩

/- A step that needs the mutex to be free. -/
def whenFree
    (s next : TimerSystem T) : Option (TimerSystem T) :=
  if s.timer.MutexFree then some next else none

omit [DecidableEq T] in
@[simp] theorem whenFree_eq_some
    {s next t : TimerSystem T} :
    s.whenFree next = some t ↔
      s.timer.MutexFree ∧ next = t := by
  unfold whenFree
  split_ifs with hFree
  · simp [hFree]
  · simp [hFree]

/- A step of `stop`. -/
def stopStep
    (s : TimerSystem T) : Option (TimerSystem T) :=
  match s.stopPc with
  | .idle =>
      s.whenFree
        { s with
          timer := s.timer.stopRunning
          stopPc := .notify }
  | .notify =>
      some
        { s with
          timer := s.timer.notifyOne
          stopPc := .join }
  | .join =>
      if s.timer.threadPc = .exit then
        some { s with stopPc := .returned }
      else
        none
  | .returned => none

def step
    (s : TimerSystem T) :
    Action T → Option (TimerSystem T)
| .register event timeout =>
    s.whenFree
      { s with
        timer :=
          s.timer.registerAt event (deadline s.clock timeout)
        latest :=
          s.latest.assign event (deadline s.clock timeout) }
| .remove event =>
    s.whenFree
      { s with
        timer := s.timer.removeEvent event
        latest := s.latest.erase event }
| .map clear =>
    s.whenFree
      { s with
        timer :=
          if clear then s.timer.clearTimedOut else s.timer }
| .thread =>
    (s.timer.threadStep s.clock).map fun timer =>
      { s with timer := timer }
| .stop => s.stopStep
| .tick duration => some { s with clock := s.clock + duration }
| .wake => some { s with timer := s.timer.notifyOne }

/- The events on which `map_timed_out_events` calls `f`. -/
def handed
    (s : TimerSystem T) : Action T → List T
| .map _ => s.timer.timedOutEvents
| _ => []

/- The step of the timer thread that expires the event. -/
def Expires
    (s : TimerSystem T)
    (action : Action T)
    (event : T) : Prop :=
  action = .thread ∧
    ∃ last tp,
      s.timer.threadPc = .expire last ∧
        s.timer.events.first? = some (tp, event) ∧
        tp ≤ milliseconds 100 + last

end TimerSystem

end Nkurdt

------------------------------------------------------------
-- Steps of the Timer Thread
------------------------------------------------------------

namespace Nkurdt

namespace ConcurrentTimer

variable {T : Type} [DecidableEq T]

/- What a step of `thread_func` can do. -/
inductive ThreadMove
    (timer timer' : ConcurrentTimer T)
    (now : Nat) : Prop
| moves
    (pc : TimerPc)
    (hNext : timer' = { timer with threadPc := pc })
    (hPc : ∀ last, pc = .expire last → last = now)
    (hWait :
      pc = .waitEvent →
        timer.threadPc = .body ∧
          timer.events.first? = none)
    (hBody :
      pc = .body →
        timer.threadPc = .test ∧ timer.running = true)
| expires
    (last tp : Nat)
    (event : T)
    (hPc : timer.threadPc = .expire last)
    (hFirst : timer.events.first? = some (tp, event))
    (hDue : tp ≤ milliseconds 100 + last)
    (hNext : timer' = timer.expireFirst event now)

theorem threadMove_threadStep
    {timer timer' : ConcurrentTimer T}
    {now : Nat}
    (hStep : timer.threadStep now = some timer') :
    ThreadMove timer timer' now := by
  unfold threadStep at hStep
  cases hPc : timer.threadPc with
  | test =>
      rw [hPc] at hStep
      dsimp only at hStep
      split_ifs at hStep with hRunning
      · exact .moves .body (Option.some.inj hStep).symm
          (fun _ hExpire => by cases hExpire)
          (fun hWait => by cases hWait)
          (fun _ => ⟨hPc, hRunning⟩)
      · exact .moves .exit (Option.some.inj hStep).symm
          (fun _ hExpire => by cases hExpire)
          (fun hWait => by cases hWait)
          (fun hBody => by cases hBody)
  | body =>
      rw [hPc] at hStep
      dsimp only at hStep
      split at hStep
      · rename_i hFirst
        exact .moves .waitEvent (Option.some.inj hStep).symm
          (fun _ hExpire => by cases hExpire)
          (fun _ => ⟨hPc, hFirst⟩)
          (fun hBody => by cases hBody)
      · rename_i tp event hFirst
        split_ifs at hStep
        · exact .moves (.waitUntil tp)
            (Option.some.inj hStep).symm
            (fun _ hExpire => by cases hExpire)
            (fun hWait => by cases hWait)
            (fun hBody => by cases hBody)
        · exact .moves (.expire now)
            (Option.some.inj hStep).symm
            (fun _ hExpire => by cases hExpire; rfl)
            (fun hWait => by cases hWait)
            (fun hBody => by cases hBody)
  | waitEvent =>
      rw [hPc] at hStep
      cases hStep
  | waitUntil tp =>
      rw [hPc] at hStep
      exact .moves .test (Option.some.inj hStep).symm
        (fun _ hExpire => by cases hExpire)
        (fun hWait => by cases hWait)
        (fun hBody => by cases hBody)
  | expire last =>
      rw [hPc] at hStep
      dsimp only at hStep
      split at hStep
      · exact .moves .test (Option.some.inj hStep).symm
          (fun _ hExpire => by cases hExpire)
          (fun hWait => by cases hWait)
          (fun hBody => by cases hBody)
      · rename_i tp event hFirst
        split_ifs at hStep with hDue
        · exact .expires last tp event hPc hFirst hDue
            (Option.some.inj hStep).symm
        · exact .moves .test (Option.some.inj hStep).symm
            (fun _ hExpire => by cases hExpire)
            (fun hWait => by cases hWait)
            (fun hBody => by cases hBody)
  | exit =>
      rw [hPc] at hStep
      cases hStep

/- A notification leaves the thread where it is or wakes it. -/
omit [DecidableEq T] in
theorem threadPc_notifyOne
    (timer : ConcurrentTimer T) :
    timer.notifyOne.threadPc = timer.threadPc ∨
      timer.notifyOne.threadPc = .test := by
  unfold notifyOne
  split
  · exact Or.inr rfl
  · exact Or.inr rfl
  · exact Or.inl rfl

end ConcurrentTimer

end Nkurdt
