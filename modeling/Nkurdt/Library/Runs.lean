import Mathlib

/-
  Finite runs of a labelled step function whose steps are
  restricted by a side condition.

  `Reaches step allowed start` is the set of states that can
  be reached from `start` by enabled steps that `allowed`
  admits. The side condition carries the assumptions under
  which a run is considered.

  Main declarations:
    * `Runs.Reaches`
    * `Runs.Reaches.invariant`
    * `Runs.runActions`
    * `Runs.exists_reaches_of_runActions`
    * `Runs.Along`
    * `Runs.lockstep`
-/

------------------------------------------------------------
-- Restricted Reachability
------------------------------------------------------------

namespace Runs

variable {State Action : Type}

/-
  States reached from `start` by enabled steps that the side
  condition `allowed` admits.
-/
inductive Reaches
    (step : State → Action → Option State)
    (allowed : State → Action → State → Prop)
    (start : State) : State → Prop
| refl : Reaches step allowed start start
| tail
    {state : State}
    {action : Action}
    {next : State} :
    Reaches step allowed start state →
    step state action = some next →
    allowed state action next →
    Reaches step allowed start next

namespace Reaches

variable {step : State → Action → Option State}
variable {allowed : State → Action → State → Prop}
variable {start state : State}

/-
  The invariant rule: what holds at the start and is kept
  by every admitted step holds in every reached state.
-/
theorem invariant
    {Inv : State → Prop}
    (hStart : Inv start)
    (hStep :
      ∀ current action next,
        Inv current →
        step current action = some next →
        allowed current action next →
        Inv next)
    (hReach : Reaches step allowed start state) :
    Inv state := by
  induction hReach with
  | refl => exact hStart
  | tail _ hNext hAllowed ih =>
      exact hStep _ _ _ ih hNext hAllowed

/-
  The invariant rule relative to a property already known
  of every reached state.
-/
theorem invariant_of_known
    {Known Inv : State → Prop}
    (hKnown :
      ∀ reached, Reaches step allowed start reached →
        Known reached)
    (hStart : Inv start)
    (hStep :
      ∀ current action next,
        Known current →
        Known next →
        Inv current →
        step current action = some next →
        allowed current action next →
        Inv next)
    (hReach : Reaches step allowed start state) :
    Inv state := by
  induction hReach with
  | refl => exact hStart
  | tail hPrior hNext hAllowed ih =>
      exact hStep _ _ _ (hKnown _ hPrior)
        (hKnown _ (hPrior.tail hNext hAllowed))
        ih hNext hAllowed

end Reaches

end Runs

------------------------------------------------------------
-- Executable Runs
------------------------------------------------------------

namespace Runs

variable {State Action : Type}

/-
  Execute a list of actions, failing at the first one that
  is not enabled or not admitted.
-/
def runActions
    (step : State → Action → Option State)
    (allowed : State → Action → State → Prop)
    [∀ current action next,
      Decidable (allowed current action next)] :
    State → List Action → Option State
| state, [] => some state
| state, action :: actions =>
    match step state action with
    | none => none
    | some next =>
        if allowed state action next then
          runActions step allowed next actions
        else
          none

/- An executed list of actions is a run. -/
theorem reaches_of_runActions
    {step : State → Action → Option State}
    {allowed : State → Action → State → Prop}
    [∀ current action next,
      Decidable (allowed current action next)]
    {start origin state : State}
    {actions : List Action}
    (hOrigin : Reaches step allowed start origin)
    (hRun :
      runActions step allowed origin actions =
        some state) :
    Reaches step allowed start state := by
  induction actions generalizing origin with
  | nil =>
      simp only [runActions, Option.some.injEq] at hRun
      subst hRun
      exact hOrigin
  | cons action actions ih =>
      cases hNext : step origin action with
      | none =>
          simp [runActions, hNext] at hRun
      | some next =>
          by_cases hAllowed : allowed origin action next
          · apply ih (hOrigin.tail hNext hAllowed)
            simpa [runActions, hNext, hAllowed] using hRun
          · simp [runActions, hNext, hAllowed] at hRun

/-
  A concrete run whose last state has a decidable property
  witnesses that some reachable state has it.
-/
theorem exists_reaches_of_runActions
    {step : State → Action → Option State}
    {allowed : State → Action → State → Prop}
    [∀ current action next,
      Decidable (allowed current action next)]
    {start : State}
    {Final : State → Prop}
    [DecidablePred Final]
    (actions : List Action)
    (hRun :
      (runActions step allowed start actions).any
        (fun state => decide (Final state)) = true) :
    ∃ state,
      Reaches step allowed start state ∧ Final state := by
  cases hState : runActions step allowed start actions with
  | none =>
      simp [hState] at hRun
  | some state =>
      refine ⟨state, ?_, ?_⟩
      · exact reaches_of_runActions .refl hState
      · simpa [hState] using hRun

end Runs

------------------------------------------------------------
-- Two Systems in Lockstep
------------------------------------------------------------

namespace Runs

variable {State Action Output : Type}

/- The condition holds before every step of the list. -/
def Along
    (step : State → Action → Option State)
    (condition : State → Action → Prop) :
    State → List Action → Prop
| _, [] => True
| state, action :: actions =>
    condition state action ∧
      ∀ next ∈ step state action,
        Along step condition next actions

instance decidableAlong
    (step : State → Action → Option State)
    (condition : State → Action → Prop)
    [∀ state action, Decidable (condition state action)] :
    ∀ state actions,
      Decidable (Along step condition state actions)
| _, [] => inferInstanceAs (Decidable True)
| state, action :: actions =>
    have : ∀ next,
        Decidable (Along step condition next actions) :=
      fun next =>
        decidableAlong step condition next actions
    inferInstanceAs
      (Decidable
        (condition state action ∧
          ∀ next ∈ step state action,
            Along step condition next actions))

/- What the steps of the list put out. -/
def outputs
    (step : State → Action → Option State)
    (output : State → Action → Option Output) :
    State → List Action → List (Option Output)
| _, [] => []
| state, action :: actions =>
    match step state action with
    | none => []
    | some next =>
        output state action ::
          outputs step output next actions

/-
  A map that commutes with every step on which a condition
  holds carries the runs along which it holds to runs of the
  other system, step for step and output for output.
-/
theorem lockstep
    {State' Action' Output' : Type}
    {step : State → Action → Option State}
    {step' : State' → Action' → Option State'}
    {output : State → Action → Option Output}
    {output' : State' → Action' → Option Output'}
    {condition : State → Action → Prop}
    {Inv : State → Prop}
    {f : State → State'}
    {g : Action → Action'}
    {h : Output → Output'}
    (hKeeps :
      ∀ current action next,
        Inv current →
        step current action = some next →
        Inv next)
    (hStep :
      ∀ current action,
        Inv current →
        condition current action →
        step' (f current) (g action) =
          (step current action).map f)
    (hOutput :
      ∀ current action,
        Inv current →
        condition current action →
        output' (f current) (g action) =
          (output current action).map h)
    {start : State}
    {actions : List Action}
    (hStart : Inv start)
    (hAlong : Along step condition start actions) :
    outputs step' output' (f start) (actions.map g) =
        (outputs step output start actions).map
          (Option.map h) ∧
      runActions step' (fun _ _ _ => True) (f start)
          (actions.map g) =
        (runActions step (fun _ _ _ => True) start
          actions).map f := by
  induction actions generalizing start with
  | nil => exact ⟨rfl, rfl⟩
  | cons action actions ih =>
      obtain ⟨hCondition, hRest⟩ := hAlong
      have hBoth := hStep start action hStart hCondition
      have hSame := hOutput start action hStart hCondition
      unfold outputs runActions
      rw [List.map_cons]
      dsimp only
      rw [hBoth, hSame]
      cases hNext : step start action with
      | none => exact ⟨rfl, rfl⟩
      | some next =>
          have hTail :=
            ih (hKeeps start action next hStart hNext)
              (hRest next hNext)
          dsimp only [Option.map_some]
          rw [if_pos trivial, if_pos trivial, List.map_cons,
            hTail.1]
          exact ⟨rfl, hTail.2⟩

end Runs
