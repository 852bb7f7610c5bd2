import Nkurdt.Library.Runs

/-
  Bounded response: a measure that no step of a run raises
  and that every turn of one party lowers.

  A state that waits keeps waiting until the step it waits
  for is made, so a run with more turns than the measure
  allows contains that step.

  A response in several stages is put together from runs
  that each pass one stage.

  Main declarations:
    * `Runs.Occurs`
    * `Runs.occurs_or_passes`
    * `Runs.exists_goal_of_turns`
-/

------------------------------------------------------------
-- Bounded Response
------------------------------------------------------------

namespace Runs

variable {State Action : Type}
variable {step : State → Action → Option State}
variable {allowed : State → Action → State → Prop}
variable [∀ current action next,
  Decidable (allowed current action next)]

/- The first step of an executed list of actions. -/
theorem runActions_cons
    {start state : State}
    {action : Action}
    {actions : List Action}
    (hRun :
      runActions step allowed start (action :: actions) =
        some state) :
    ∃ next,
      step start action = some next ∧
        allowed start action next ∧
        runActions step allowed next actions =
          some state := by
  unfold runActions at hRun
  cases hNext : step start action with
  | none =>
      rw [hNext] at hRun
      cases hRun
  | some next =>
      rw [hNext] at hRun
      dsimp only at hRun
      split_ifs at hRun with hAllowed
      exact ⟨next, rfl, hAllowed, hRun⟩

/- A list of actions is executed part by part. -/
theorem runActions_append
    {start state : State}
    {front back : List Action}
    (hRun :
      runActions step allowed start (front ++ back) =
        some state) :
    ∃ middle,
      runActions step allowed start front = some middle ∧
        runActions step allowed middle back =
          some state := by
  induction front generalizing start with
  | nil => exact ⟨start, rfl, hRun⟩
  | cons action front ih =>
      rcases runActions_cons hRun with
        ⟨next, hNext, hAllowed, hRest⟩
      rcases ih hRest with ⟨middle, hFront, hBack⟩
      refine ⟨middle, ?_, hBack⟩
      unfold runActions
      rw [hNext]
      dsimp only
      rw [if_pos hAllowed]
      exact hFront

/- One of the steps of the run is a step to the goal. -/
def Occurs
    (step : State → Action → Option State)
    (allowed : State → Action → State → Prop)
    [∀ current action next,
      Decidable (allowed current action next)]
    (Goal : State → Action → State → Prop)
    (start : State)
    (actions : List Action) : Prop :=
  ∃ taken action rest reached next,
    actions = taken ++ action :: rest ∧
      runActions step allowed start taken = some reached ∧
      step reached action = some next ∧
      Goal reached action next

section Occurs

variable {Goal : State → Action → State → Prop}
variable {start : State}

theorem Occurs.cons
    {action : Action}
    {next : State}
    {actions : List Action}
    (hNext : step start action = some next)
    (hAllowed : allowed start action next)
    (hOccurs : Occurs step allowed Goal next actions) :
    Occurs step allowed Goal start (action :: actions) := by
  rcases hOccurs with
    ⟨taken, goal, rest, reached, after, rfl, hTaken, hGoal⟩
  refine ⟨action :: taken, goal, rest, reached, after, rfl,
    ?_, hGoal⟩
  unfold runActions
  rw [hNext]
  dsimp only
  rw [if_pos hAllowed]
  exact hTaken

/- What occurs in the first part of a run occurs in it. -/
theorem Occurs.left
    {front : List Action}
    (hOccurs : Occurs step allowed Goal start front)
    (back : List Action) :
    Occurs step allowed Goal start (front ++ back) := by
  rcases hOccurs with
    ⟨taken, action, rest, reached, next, rfl, hRest⟩
  exact ⟨taken, action, rest ++ back, reached, next,
    by simp, hRest⟩

/- And so does what occurs in the second. -/
theorem Occurs.right
    {front back : List Action}
    {middle : State}
    (hFront :
      runActions step allowed start front = some middle)
    (hOccurs : Occurs step allowed Goal middle back) :
    Occurs step allowed Goal start (front ++ back) := by
  induction front generalizing start with
  | nil =>
      cases hFront
      exact hOccurs
  | cons action front ih =>
      rcases runActions_cons hFront with
        ⟨next, hNext, hAllowed, hRest⟩
      exact (ih hRest).cons hNext hAllowed

/- A run reaches the goal, or keeps what every step keeps. -/
theorem occurs_or_keeps
    {Kept : State → Prop}
    {state : State}
    {actions : List Action}
    (hKept : Kept start)
    (hRun :
      runActions step allowed start actions = some state)
    (hStep :
      ∀ current action next,
        Kept current →
        step current action = some next →
        allowed current action next →
        Goal current action next ∨ Kept next) :
    Occurs step allowed Goal start actions ∨ Kept state := by
  induction actions generalizing start with
  | nil =>
      cases hRun
      exact Or.inr hKept
  | cons action actions ih =>
      rcases runActions_cons hRun with
        ⟨next, hNext, hAllowed, hRest⟩
      rcases hStep start action next hKept hNext hAllowed with
        hGoal | hStill
      · exact Or.inl ⟨[], action, actions, start, next, rfl,
          rfl, hNext, hGoal⟩
      · exact (ih hStill hRest).imp_left
          (Occurs.cons hNext hAllowed)

/-
  What the goal brings about, and every later step keeps,
  holds at the end of a run in which the goal occurs.
-/
theorem Occurs.after
    {Kept After : State → Prop}
    {state : State}
    {actions : List Action}
    (hOccurs : Occurs step allowed Goal start actions)
    (hRun :
      runActions step allowed start actions = some state)
    (hKept : Kept start)
    (hStep :
      ∀ current action next,
        Kept current →
        step current action = some next →
        allowed current action next →
        Kept next)
    (hGoal :
      ∀ current action next,
        Kept current →
        step current action = some next →
        allowed current action next →
        Goal current action next →
        After next)
    (hAfter :
      ∀ current action next,
        After current →
        step current action = some next →
        allowed current action next →
        After next) :
    After state := by
  rcases hOccurs with
    ⟨taken, action, rest, reached, next, rfl, hTaken, hNext,
      hDone⟩
  rcases runActions_append hRun with
    ⟨middle, hFront, hBack⟩
  have hSame : middle = reached :=
    Option.some.inj (hFront.symm.trans hTaken)
  subst hSame
  rcases runActions_cons hBack with
    ⟨next', hNext', hAllowed, hRest⟩
  have hEqual : next' = next :=
    Option.some.inj (hNext'.symm.trans hNext)
  subst hEqual
  have hReached : Kept middle :=
    (reaches_of_runActions .refl hTaken).invariant hKept hStep
  exact (reaches_of_runActions .refl hRest).invariant
    (hGoal middle action next' hReached hNext hAllowed hDone)
    hAfter

/-
  One stage of a response: with more turns than `left` of
  the first state, a run reaches the goal or leaves the stage
  for good.
-/
theorem occurs_or_passes
    {Waiting Passed : State → Prop}
    {turn : Action → Bool}
    {left : State → Nat}
    {state : State}
    {actions : List Action}
    (hWaiting : Waiting start)
    (hRun :
      runActions step allowed start actions = some state)
    (hEnough : left start < actions.countP turn)
    (hStep :
      ∀ current action next,
        Waiting current →
        step current action = some next →
        allowed current action next →
        Goal current action next ∨ Passed next ∨
          Waiting next ∧
            left next + (turn action).toNat ≤
              left current)
    (hPassed :
      ∀ current action next,
        Passed current →
        step current action = some next →
        allowed current action next →
        Goal current action next ∨ Passed next) :
    Occurs step allowed Goal start actions ∨
      Passed state := by
  induction actions generalizing start with
  | nil => cases hEnough
  | cons action actions ih =>
      rcases runActions_cons hRun with
        ⟨next, hNext, hAllowed, hRest⟩
      rcases hStep start action next hWaiting hNext hAllowed
        with hGoal | hThrough | ⟨hStill, hLess⟩
      · exact Or.inl ⟨[], action, actions, start, next, rfl,
          rfl, hNext, hGoal⟩
      · exact (occurs_or_keeps hThrough hRest hPassed).imp_left
          (Occurs.cons hNext hAllowed)
      · have hMore : left next < actions.countP turn := by
          rw [List.countP_cons] at hEnough
          cases hTurn : turn action with
          | false =>
              simp only [hTurn, Bool.toNat_false] at hLess
              simp only [hTurn] at hEnough
              simp at hEnough
              omega
          | true =>
              simp only [hTurn, Bool.toNat_true] at hLess
              simp only [hTurn] at hEnough
              simp at hEnough
              omega
        exact (ih hStill hRest hMore).imp_left
          (Occurs.cons hNext hAllowed)

end Occurs

/-
  The bounded response rule: with more turns than `left` of
  the first state, one of the steps is the one waited for.
-/
theorem exists_goal_of_turns
    {Waiting : State → Prop}
    {Goal : State → Action → Prop}
    {turn : Action → Bool}
    {left : State → Nat}
    {start state : State}
    {actions : List Action}
    (hWaiting : Waiting start)
    (hRun :
      runActions step allowed start actions = some state)
    (hEnough : left start < actions.countP turn)
    (hStep :
      ∀ current action next,
        Waiting current →
        step current action = some next →
        allowed current action next →
        Goal current action ∨
          Waiting next ∧
            left next + (turn action).toNat ≤
              left current) :
    ∃ taken action rest reached,
      actions = taken ++ action :: rest ∧
        runActions step allowed start taken =
          some reached ∧
        Goal reached action := by
  let Reached (current : State) (action : Action)
      (_ : State) : Prop := Goal current action
  let Nowhere (_ : State) : Prop := False
  have hOccurs :
      Occurs step allowed Reached start actions ∨
        Nowhere state :=
    occurs_or_passes hWaiting hRun hEnough
      (fun current action next hCurrent hNext hAllowed =>
        (hStep current action next hCurrent hNext
          hAllowed).imp_right Or.inr)
      (fun _ _ _ hNever => False.elim hNever)
  rcases hOccurs with
    ⟨taken, action, rest, reached, _, hActions, hTaken, _,
      hGoal⟩ | hNever
  · exact ⟨taken, action, rest, reached, hActions, hTaken,
      hGoal⟩
  · exact False.elim hNever

end Runs
