import Nkurdt.Timer.Deadlines

/-
  Which events the timer reports as timed out.

  An event that has expired is in no index any more. Then
  `remove_event` returns before it reaches the erasure from
  the timed out set, and `register_event` has no such erasure
  at all, so the event is still reported.

  Main declarations:
    * `TimerSystem.Forgets`
    * `TimerSystem.Renews`
    * `TimerSystem.Absent`
    * `TimerSystem.reported_iff`
-/

------------------------------------------------------------
-- Promises of the Operations
------------------------------------------------------------

namespace Nkurdt

namespace TimerSystem

open ConcurrentTimer
open Runs

variable {T : Type} [DecidableEq T]

/-
  Behind `remove_event` the event is unregistered, and it is
  not handed out until it is registered again.
-/
def Forgets (s : TimerSystem T) (event : T) : Prop :=
  ∃ s',
    s.step (.remove event) = some s' ∧
    s'.timer.queryEvent event = .unregistered ∧
    ∀ s'' action,
      Reaches step
        (fun _ action _ =>
          ∀ timeout, action ≠ .register event timeout)
        s' s'' →
      event ∉ s''.handed action

/-
  Behind `register_event` the event is normal, and it is not
  handed out until it expires.
-/
def Renews
    (s : TimerSystem T)
    (event : T)
    (timeout : Int) : Prop :=
  ∃ s',
    s.step (.register event timeout) = some s' ∧
    s'.timer.queryEvent event = .normal ∧
    ∀ s'' action,
      Reaches step
        (fun current action _ =>
          ¬ current.Expires action event)
        s' s'' →
      event ∉ s''.handed action

end TimerSystem

namespace ConcurrentTimer

variable {T : Type} [DecidableEq T]

theorem queryEvent_eq_unregistered
    {timer : ConcurrentTimer T}
    {event : T} :
    timer.queryEvent event = .unregistered ↔
      event ∉ timer.timedOutEvents ∧
        timer.registeredEvents event = none := by
  unfold queryEvent UnorderedMap.contains
  cases timer.registeredEvents event <;>
    by_cases hTimedOut : event ∈ timer.timedOutEvents <;>
      simp [hTimedOut]

theorem queryEvent_eq_normal
    {timer : ConcurrentTimer T}
    {event : T} :
    timer.queryEvent event = .normal ↔
      event ∉ timer.timedOutEvents ∧
        timer.registeredEvents event ≠ none := by
  unfold queryEvent UnorderedMap.contains
  cases timer.registeredEvents event <;>
    by_cases hTimedOut : event ∈ timer.timedOutEvents <;>
      simp [hTimedOut]

end ConcurrentTimer

end Nkurdt

------------------------------------------------------------
-- Events That Stay Away
------------------------------------------------------------

namespace Nkurdt

namespace TimerSystem

open ConcurrentTimer
open Runs

variable {T : Type} [DecidableEq T]

/- Only events that have timed out are handed out. -/
omit [DecidableEq T] in
theorem not_mem_handed
    {s : TimerSystem T}
    {event : T}
    (action : Action T)
    (hAway : event ∉ s.timer.timedOutEvents) :
    event ∉ s.handed action := by
  cases action
  case map clear => exact hAway
  all_goals exact List.not_mem_nil

/- The event is nowhere in the timer. -/
structure Absent (event : T) (s : TimerSystem T) : Prop where
  kept : Kept s
  unregistered : s.timer.registeredEvents event = none
  notTimedOut : event ∉ s.timer.timedOutEvents

/- An event that is nowhere does not expire. -/
theorem Absent.not_expires
    {event : T}
    {s : TimerSystem T}
    (hAbsent : Absent event s)
    (action : Action T) :
    ¬ s.Expires action event := by
  rintro ⟨_, last, tp, _, hFirst, _⟩
  have hBinding :=
    (hAbsent.kept.consistent.eraseFirst hFirst).1
  rw [hAbsent.unregistered] at hBinding
  cases hBinding

/- It comes back by being registered. -/
theorem absent_step
    {event : T}
    {s s' : TimerSystem T}
    {action : Action T}
    (hAbsent : Absent event s)
    (hStep : s.step action = some s')
    (hOther : ∀ timeout, action ≠ .register event timeout) :
    Absent event s' := by
  have hMove := move_step hStep
  refine ⟨kept_step hAbsent.kept hStep, ?_, ?_⟩
  · cases hMove with
    | registers other timeout hNext =>
        subst hNext
        have hNot : event ≠ other := by
          rintro rfl
          exact hOther timeout rfl
        dsimp only
        rw [registeredEvents_registerAt, if_neg hNot]
        exact hAbsent.unregistered
    | removes other hNext =>
        subst hNext
        dsimp only
        rw [registeredEvents_removeEvent]
        split_ifs
        · rfl
        · exact hAbsent.unregistered
    | maps clear hNext =>
        subst hNext
        cases clear <;> exact hAbsent.unregistered
    | expires last tp other hPc hFirst hDue hNext =>
        subst hNext
        unfold expireFirst
        dsimp only
        rw [UnorderedMap.erase_apply]
        split_ifs
        · rfl
        · exact hAbsent.unregistered
    | quiet _ hQuiet =>
        rw [hQuiet.registeredEvents]
        exact hAbsent.unregistered
  · intro hAfter
    exact hAbsent.not_expires action
      (expires_of_move hMove hAfter hAbsent.notTimedOut).1

theorem absent_of_reaches
    {event : T}
    {s s' : TimerSystem T}
    (hAbsent : Absent event s)
    (hReaches :
      Reaches step
        (fun _ action _ =>
          ∀ timeout, action ≠ .register event timeout)
        s s') :
    Absent event s' :=
  hReaches.invariant hAbsent
    (fun _ _ _ hNow hStep hOther =>
      absent_step hNow hStep hOther)

/- The event has not timed out. -/
def Pending (event : T) (s : TimerSystem T) : Prop :=
  event ∉ s.timer.timedOutEvents

/- An event that does not expire does not time out. -/
theorem pending_of_reaches
    {event : T}
    {s s' : TimerSystem T}
    (hPending : Pending event s)
    (hReaches :
      Reaches step
        (fun current action _ =>
          ¬ current.Expires action event)
        s s') :
    Pending event s' :=
  hReaches.invariant hPending
    (fun _ _ _ hNow hStep hAlive hAfter =>
      hAlive (expires_of_move (move_step hStep) hAfter hNow).1)

end TimerSystem

end Nkurdt

------------------------------------------------------------
-- When the Promises Are Kept
------------------------------------------------------------

namespace Nkurdt

namespace TimerSystem

open ConcurrentTimer
open Runs

variable {T : Type} [DecidableEq T]

theorem forgets_iff
    {s : TimerSystem T}
    {event : T}
    (hKept : Kept s)
    (hFree : s.timer.MutexFree) :
    s.Forgets event ↔
      s.timer.registeredEvents event ≠ none ∨
        event ∉ s.timer.timedOutEvents := by
  have hStep :
      s.step (.remove event) =
        some
          { s with
            timer := s.timer.removeEvent event
            latest := s.latest.erase event } :=
    whenFree_eq_some.mpr ⟨hFree, rfl⟩
  have hTimedOut := timedOutEvents_removeEvent s.timer event
  constructor
  · intro hForgets
    obtain ⟨s', hNext, hQuery, _⟩ := hForgets
    rw [hStep] at hNext
    cases hNext
    have hAway := (queryEvent_eq_unregistered.mp hQuery).1
    dsimp only at hAway
    rw [hTimedOut] at hAway
    split_ifs at hAway with hNone
    · exact Or.inr hAway
    · exact Or.inl hNone
  · intro hCondition
    have hAbsent :
        Absent event
          { s with
            timer := s.timer.removeEvent event
            latest := s.latest.erase event } := by
      refine ⟨kept_step hKept hStep, ?_, ?_⟩
      · dsimp only
        rw [registeredEvents_removeEvent, if_pos rfl]
      · dsimp only
        rw [hTimedOut]
        split_ifs with hNone
        · exact hCondition.resolve_left
            (fun hSome => hSome hNone)
        · exact hKept.nodup.not_mem_erase
    refine ⟨_, hStep, ?_, ?_⟩
    · exact queryEvent_eq_unregistered.mpr
        ⟨hAbsent.notTimedOut, hAbsent.unregistered⟩
    · intro s'' action hReaches
      exact not_mem_handed action
        (absent_of_reaches hAbsent hReaches).notTimedOut

theorem renews_iff
    {s : TimerSystem T}
    {event : T}
    (timeout : Int)
    (hFree : s.timer.MutexFree) :
    s.Renews event timeout ↔
      event ∉ s.timer.timedOutEvents := by
  have hStep :
      s.step (.register event timeout) =
        some
          { s with
            timer :=
              s.timer.registerAt event
                (deadline s.clock timeout)
            latest :=
              s.latest.assign event
                (deadline s.clock timeout) } :=
    whenFree_eq_some.mpr ⟨hFree, rfl⟩
  have hTimedOut :=
    timedOutEvents_registerAt s.timer event
      (deadline s.clock timeout)
  constructor
  · intro hRenews
    obtain ⟨s', hNext, hQuery, _⟩ := hRenews
    rw [hStep] at hNext
    cases hNext
    have hAway := (queryEvent_eq_normal.mp hQuery).1
    dsimp only at hAway
    rw [hTimedOut] at hAway
    exact hAway
  · intro hCondition
    rw [← hTimedOut] at hCondition
    have hPending :
        Pending event
          { s with
            timer :=
              s.timer.registerAt event
                (deadline s.clock timeout)
            latest :=
              s.latest.assign event
                (deadline s.clock timeout) } :=
      hCondition
    refine ⟨_, hStep, ?_, ?_⟩
    · refine queryEvent_eq_normal.mpr ⟨hCondition, ?_⟩
      dsimp only
      rw [registeredEvents_registerAt, if_pos rfl]
      exact Option.some_ne_none _
    · intro s'' action hReaches
      exact not_mem_handed action
        (pending_of_reaches hPending hReaches)

/-
  In any state reached, removing an event keeps its promise
  exactly if the event is registered or has not timed out,
  and registering one exactly if it has not timed out.
-/
theorem reported_iff
    {now : Nat}
    {s : TimerSystem T}
    (event : T)
    (hReaches :
      Reaches step (fun _ _ _ => True) (fresh T now) s)
    (hFree : s.timer.MutexFree) :
    (s.Forgets event ↔
      s.timer.registeredEvents event ≠ none ∨
        event ∉ s.timer.timedOutEvents) ∧
    ∀ timeout,
      s.Renews event timeout ↔
        event ∉ s.timer.timedOutEvents :=
  ⟨forgets_iff (kept_of_reaches hReaches) hFree,
    fun timeout => renews_iff timeout hFree⟩

/- A registered event is removed in time. -/
theorem reported_iff_registered :
    ∃ s : TimerSystem Nat,
      Reaches step (fun _ _ _ => True) (fresh Nat 0) s ∧
      s.timer.registeredEvents 7 = some 1000000 ∧
      s.Forgets 7 := by
  have hRun :
      ∃ s : TimerSystem Nat,
        Reaches step (fun _ _ _ => True) (fresh Nat 0) s ∧
        (s.timer.MutexFree ∧
          s.timer.registeredEvents 7 = some 1000000) :=
    exists_reaches_of_runActions
      [.register 7 1, .thread] (by decide +kernel)
  obtain ⟨s, hReaches, hFree, hBinding⟩ := hRun
  have hForgets := (reported_iff 7 hReaches hFree).1
  refine ⟨s, hReaches, hBinding,
    hForgets.mpr (Or.inl ?_)⟩
  rw [hBinding]
  exact Option.some_ne_none _

/-
  The event has expired when it is removed: it stays timed
  out and is handed out by the next mapping. The same goes
  for registering it again.
-/
theorem exists_reported :
    ∃ s s' t' : TimerSystem Nat,
      Reaches step (fun _ _ _ => True) (fresh Nat 0) s ∧
      s.step (.remove 7) = some s' ∧
      s'.timer.queryEvent 7 = .timedOut ∧
      7 ∈ s'.handed (.map true) ∧
      s.step (.register 7 1000) = some t' ∧
      t'.timer.queryEvent 7 = .timedOut ∧
      7 ∈ t'.handed (.map true) := by
  have hRun :
      ∃ s : TimerSystem Nat,
        Reaches step (fun _ _ _ => True) (fresh Nat 0) s ∧
        ((s.step (.remove 7)).any (fun s' =>
            decide
              (s'.timer.queryEvent 7 = .timedOut ∧
                7 ∈ s'.handed (.map true))) = true ∧
          (s.step (.register 7 1000)).any (fun s' =>
            decide
              (s'.timer.queryEvent 7 = .timedOut ∧
                7 ∈ s'.handed (.map true))) = true) :=
    exists_reaches_of_runActions
      [.register 7 1, .thread, .tick 1000000, .thread,
        .thread, .thread]
      (by decide +kernel)
  obtain ⟨s, hReaches, hRemove, hRegister⟩ := hRun
  rcases (Option.any_eq_true _ _).mp hRemove with
    ⟨s', hNext, hAfter⟩
  rcases (Option.any_eq_true _ _).mp hRegister with
    ⟨t', hOther, hRenewed⟩
  have hFirst := of_decide_eq_true hAfter
  have hSecond := of_decide_eq_true hRenewed
  exact ⟨s, s', t', hReaches, hNext, hFirst.1, hFirst.2,
    hOther, hSecond.1, hSecond.2⟩

end TimerSystem

end Nkurdt
