import Nkurdt.Library.Turns

/-
  A channel that keeps its elements in order and holds no
  more than its capacity, and what it means that a system
  implements one.

  A system shows what goes in and out at each of its steps.
  If every step shows a run of the channel between what the
  channel holds before and after, so does every run of the
  system.

  Main declarations:
    * `Channel.Step`
    * `Channel.Run`
    * `Channel.Run.conserved`
    * `Channel.Run.bounded`
    * `Channel.shown`
    * `Channel.Implements`
    * `Channel.run_of_simulation`
-/

------------------------------------------------------------
-- Steps and Runs of a Channel
------------------------------------------------------------

namespace Channel

/- An element goes in, or one comes out. -/
inductive Label (α : Type) where
| accept (a : α)
| deliver (a : α)

variable {α : Type}

/- In at the end while there is room, out at the front. -/
inductive Step
    (capacity : Nat) : List α → Label α → List α → Prop
| accept
    {queue : List α}
    (a : α)
    (hRoom : queue.length < capacity) :
    Step capacity queue (.accept a) (queue ++ [a])
| deliver
    (a : α)
    (queue : List α) :
    Step capacity (a :: queue) (.deliver a) queue

inductive Run
    (capacity : Nat) :
    List α → List (Label α) → List α → Prop
| nil
    (queue : List α) :
    Run capacity queue [] queue
| cons
    {queue middle last : List α}
    {label : Label α}
    {labels : List (Label α)} :
    Step capacity queue label middle →
    Run capacity middle labels last →
    Run capacity queue (label :: labels) last

/- What goes in over a run, and what comes out. -/
def accepted (labels : List (Label α)) : List α :=
  labels.filterMap fun label =>
    match label with
    | .accept a => some a
    | .deliver _ => none

def delivered (labels : List (Label α)) : List α :=
  labels.filterMap fun label =>
    match label with
    | .accept _ => none
    | .deliver a => some a

theorem accepted_append
    (left right : List (Label α)) :
    accepted (left ++ right) =
      accepted left ++ accepted right :=
  List.filterMap_append

theorem delivered_append
    (left right : List (Label α)) :
    delivered (left ++ right) =
      delivered left ++ delivered right :=
  List.filterMap_append

@[simp] theorem accepted_map_accept
    (elements : List α) :
    accepted (elements.map .accept) = elements := by
  induction elements with
  | nil => rfl
  | cons a elements ih => exact congrArg (a :: ·) ih

@[simp] theorem accepted_map_deliver
    (elements : List α) :
    accepted (elements.map .deliver) = [] := by
  induction elements with
  | nil => rfl
  | cons a elements ih => exact ih

@[simp] theorem delivered_map_accept
    (elements : List α) :
    delivered (elements.map .accept) = [] := by
  induction elements with
  | nil => rfl
  | cons a elements ih => exact ih

@[simp] theorem delivered_map_deliver
    (elements : List α) :
    delivered (elements.map .deliver) = elements := by
  induction elements with
  | nil => rfl
  | cons a elements ih => exact congrArg (a :: ·) ih

namespace Run

variable {capacity : Nat}
variable {queue middle last : List α}
variable {labels labels' : List (Label α)}

theorem append
    (hFirst : Run capacity queue labels middle)
    (hSecond : Run capacity middle labels' last) :
    Run capacity queue (labels ++ labels') last := by
  induction hFirst with
  | nil => exact hSecond
  | cons hStep _ ih => exact .cons hStep (ih hSecond)

/- The elements at the front come out one by one. -/
theorem deliver_all
    (elements : List α)
    (queue : List α) :
    Run capacity (elements ++ queue)
      (elements.map .deliver) queue := by
  induction elements with
  | nil => exact .nil queue
  | cons a elements ih =>
      exact .cons (.deliver a (elements ++ queue)) ih

/- Nothing is lost, repeated or reordered. -/
theorem conserved
    (hRun : Run capacity queue labels last) :
    queue ++ accepted labels = delivered labels ++ last := by
  induction hRun with
  | nil queue => simp [accepted, delivered]
  | cons hStep _ ih =>
      cases hStep with
      | accept a hRoom =>
          simpa [accepted, delivered] using ih
      | deliver a queue =>
          simpa [accepted, delivered] using ih

/- The channel never holds more than its capacity. -/
theorem bounded
    (hRun : Run capacity queue labels last)
    (hQueue : queue.length ≤ capacity) :
    last.length ≤ capacity := by
  induction hRun with
  | nil => exact hQueue
  | cons hStep _ ih =>
      apply ih
      cases hStep with
      | accept a hRoom =>
          rw [List.length_append]
          exact hRoom
      | deliver a queue =>
          exact (Nat.le_succ _).trans hQueue

end Run

end Channel

------------------------------------------------------------
-- Systems That Implement a Channel
------------------------------------------------------------

namespace Channel

open Runs

variable {State Action α : Type}

/- What a run of the system shows, step after step. -/
def shown
    (step : State → Action → Option State)
    (shows : State → State → List (Label α)) :
    State → List Action → List (Label α)
| _, [] => []
| state, action :: actions =>
    match step state action with
    | none => []
    | some next =>
        shows state next ++ shown step shows next actions

/-
  What a step has to do: it shows a run between what the
  channel holds before and after it, and what goes in is
  what the system takes down as entered.
-/
structure Implements
    (capacity : Nat)
    (view entered : State → List α)
    (shows : State → State → List (Label α))
    (current next : State) : Prop where
  run :
    Run capacity (view current) (shows current next)
      (view next)
  entered :
    entered next =
      entered current ++ accepted (shows current next)

/-
  The simulation rule: if every step does that, so does
  every run.
-/
theorem run_of_simulation
    {step : State → Action → Option State}
    {allowed : State → Action → State → Prop}
    [∀ current action next,
      Decidable (allowed current action next)]
    {capacity : Nat}
    {view entered : State → List α}
    {shows : State → State → List (Label α)}
    {Inv : State → Prop}
    {start last : State}
    {actions : List Action}
    (hStart : Inv start)
    (hRun :
      runActions step allowed start actions = some last)
    (hStep :
      ∀ current action next,
        Inv current →
        step current action = some next →
        allowed current action next →
        Inv next ∧
          Implements capacity view entered shows current
            next) :
    Inv last ∧
      Run capacity (view start)
        (shown step shows start actions) (view last) ∧
      entered last =
        entered start ++
          accepted (shown step shows start actions) := by
  induction actions generalizing start with
  | nil =>
      unfold runActions at hRun
      cases hRun
      exact ⟨hStart, .nil _, (List.append_nil _).symm⟩
  | cons action actions ih =>
      rcases runActions_cons hRun with
        ⟨next, hNext, hAllowed, hRest⟩
      rcases hStep start action next hStart hNext hAllowed
        with ⟨hInv, hShows⟩
      rcases ih hInv hRest with ⟨hLast, hMore, hEntered⟩
      have hShown :
          shown step shows start (action :: actions) =
            shows start next ++
              shown step shows next actions := by
        rw [shown, hNext]
      rw [hShown, accepted_append, hEntered, hShows.entered,
        List.append_assoc]
      exact ⟨hLast, hShows.run.append hMore, rfl⟩

end Channel
