import Mathlib

/-
  A mutex with an owner, and the section it guards.

  `inside` says which threads are in the section. The mutex
  guards the section if every thread inside owns it. A step
  of one thread that follows the discipline (enter when the
  mutex is free and become the owner, or leave the mutex
  alone, or leave the section) keeps that.

  Main declarations:
    * `Mutexes.Guarded`
    * `Mutexes.Move`
    * `Mutexes.Guarded.move`
    * `Mutexes.Guarded.owner_of_move`
    * `Mutexes.Owned`
    * `Mutexes.Turn`
    * `Mutexes.Owned.turn`
    * `Mutexes.WaitsFor`
    * `Mutexes.Owned.exists_last`
-/

------------------------------------------------------------
-- Guarded Sections
------------------------------------------------------------

namespace Mutexes

variable {Thread : Type}

/- Every thread in the section owns the mutex. -/
def Guarded
    (owner : Option Thread)
    (inside : Thread → Prop) : Prop :=
  ∀ thread, inside thread → owner = some thread

/- At most one thread is in a guarded section. -/
theorem Guarded.exclusive
    {owner : Option Thread}
    {inside : Thread → Prop}
    (hGuarded : Guarded owner inside)
    {thread other : Thread}
    (hThread : inside thread)
    (hOther : inside other) :
    thread = other := by
  have hOwner := hGuarded thread hThread
  rw [hGuarded other hOther] at hOwner
  exact (Option.some.inj hOwner).symm

/- Nobody is in the section of a free mutex. -/
theorem Guarded.not_inside
    {owner : Option Thread}
    {inside : Thread → Prop}
    (hGuarded : Guarded owner inside)
    (hFree : owner = none)
    (thread : Thread) :
    ¬ inside thread := by
  intro hInside
  rw [hGuarded thread hInside] at hFree
  cases hFree

/-
  What a thread may do to a mutex in one step: keep it as it
  is without entering the section, lock it, or leave the
  section.
-/
inductive Move
    (owner owner' : Option Thread)
    (thread : Thread)
    (inside inside' : Prop) : Prop
| keep (hOwner : owner' = owner) (hInside : inside' → inside)
| lock (hFree : owner = none) (hOwner : owner' = some thread)
| leave (hInside : inside) (hOutside : ¬ inside')

/- Such a step keeps the section guarded. -/
theorem Guarded.move
    {owner owner' : Option Thread}
    {inside inside' : Thread → Prop}
    {thread : Thread}
    (hGuarded : Guarded owner inside)
    (hMove :
      Move owner owner' thread (inside thread)
        (inside' thread))
    (hOthers :
      ∀ other, other ≠ thread →
        inside' other → inside other) :
    Guarded owner' inside' := by
  intro other hInside'
  by_cases hOther : other = thread
  · subst hOther
    cases hMove with
    | keep hOwner hInside =>
        rw [hOwner]
        exact hGuarded other (hInside hInside')
    | lock hFree hOwner => exact hOwner
    | leave hInside hOutside =>
        exact absurd hInside' hOutside
  · have hInside := hOthers other hOther hInside'
    cases hMove with
    | keep hOwner _ =>
        rw [hOwner]
        exact hGuarded other hInside
    | lock hFree _ =>
        exact absurd hInside (hGuarded.not_inside hFree other)
    | leave hThread _ =>
        exact absurd (hGuarded.exclusive hInside hThread)
          hOther

/- Nobody but the owner can change the owner. -/
theorem Guarded.owner_of_move
    {owner owner' : Option Thread}
    {inside : Thread → Prop}
    {thread other : Thread}
    {inside' : Prop}
    (hGuarded : Guarded owner inside)
    (hMove : Move owner owner' thread (inside thread) inside')
    (hOwner : owner = some other)
    (hOther : other ≠ thread) :
    owner' = some other := by
  cases hMove with
  | keep hSame _ => exact hSame.trans hOwner
  | lock hFree _ =>
      rw [hOwner] at hFree
      cases hFree
  | leave hInside _ =>
      rw [hGuarded thread hInside] at hOwner
      exact absurd (Option.some.inj hOwner).symm hOther

/- A step that concerns neither mutex nor section. -/
theorem Guarded.congr
    {owner owner' : Option Thread}
    {inside inside' : Thread → Prop}
    (hGuarded : Guarded owner inside)
    (hOwner : owner' = owner)
    (hInside : ∀ thread, inside' thread → inside thread) :
    Guarded owner' inside' := by
  intro thread hThread
  rw [hOwner]
  exact hGuarded thread (hInside thread hThread)

end Mutexes

------------------------------------------------------------
-- Several Mutexes
------------------------------------------------------------

namespace Mutexes

variable {Thread Mutex : Type}

/- The owner of a mutex is the one thread that holds it. -/
def Owned
    (owner : Mutex → Option Thread)
    (holds : Thread → Mutex → Prop) : Prop :=
  ∀ thread mutex, owner mutex = some thread ↔
    holds thread mutex

/-
  What a thread may do in one step: keep what it holds, lock
  a free mutex, or unlock one that it holds.
-/
inductive Turn
    [DecidableEq Mutex]
    (owner owner' : Mutex → Option Thread)
    (thread : Thread)
    (holds holds' : Mutex → Prop) : Prop
| keep
    (hOwner : owner' = owner)
    (hHolds : ∀ m, holds' m ↔ holds m)
| lock
    (mutex : Mutex)
    (hFree : owner mutex = none)
    (hOwner :
      owner' = Function.update owner mutex (some thread))
    (hHolds : ∀ m, holds' m ↔ m = mutex ∨ holds m)
| unlock
    (mutex : Mutex)
    (hHeld : holds mutex)
    (hOwner : owner' = Function.update owner mutex none)
    (hHolds : ∀ m, holds' m ↔ m ≠ mutex ∧ holds m)

variable {owner owner' : Mutex → Option Thread}
variable {holds holds' : Thread → Mutex → Prop}

/- The mutexes of a thread as a stack: lock one more. -/
theorem Turn.push
    [DecidableEq Mutex]
    {thread : Thread}
    {mutex : Mutex}
    {held held' : List Mutex}
    (hFree : owner mutex = none)
    (hOwner :
      owner' = Function.update owner mutex (some thread))
    (hHeld : held' = mutex :: held) :
    Turn owner owner' thread (· ∈ held) (· ∈ held') := by
  subst hHeld
  exact .lock mutex hFree hOwner (fun _ => List.mem_cons)

/- And unlock the last one. -/
theorem Turn.pop
    [DecidableEq Mutex]
    {thread : Thread}
    {mutex : Mutex}
    {held held' : List Mutex}
    (hOwner : owner' = Function.update owner mutex none)
    (hHeld : held = mutex :: held')
    (hOnce : mutex ∉ held') :
    Turn owner owner' thread (· ∈ held) (· ∈ held') := by
  subst hHeld
  refine .unlock mutex List.mem_cons_self hOwner ?_
  intro m
  constructor
  · intro hMember
    refine ⟨?_, List.mem_cons_of_mem mutex hMember⟩
    rintro rfl
    exact hOnce hMember
  · intro hBoth
    exact (List.mem_cons.mp hBoth.2).resolve_left hBoth.1

/- Such a step keeps every owner right. -/
theorem Owned.turn
    [DecidableEq Mutex]
    {thread : Thread}
    (hOwned : Owned owner holds)
    (hTurn :
      Turn owner owner' thread (holds thread)
        (holds' thread))
    (hOthers :
      ∀ other, other ≠ thread →
        ∀ m, holds' other m ↔ holds other m) :
    Owned owner' holds' := by
  intro other m
  have hSame (hOther : other ≠ thread) :
      owner m = some other ↔ holds' other m :=
    (hOwned other m).trans (hOthers other hOther m).symm
  cases hTurn with
  | keep hOwner hHolds =>
      rw [hOwner]
      by_cases hOther : other = thread
      · subst hOther
        rw [hHolds m]
        exact hOwned other m
      · exact hSame hOther
  | lock mutex hFree hOwner hHolds =>
      rw [hOwner]
      by_cases hMutex : m = mutex
      · subst hMutex
        rw [Function.update_self]
        by_cases hOther : other = thread
        · subst hOther
          simp [hHolds m]
        · have hNot : ¬ holds' other m := by
            rw [← hSame hOther, hFree]
            exact fun hNone => by cases hNone
          simp [hNot, Ne.symm hOther]
      · rw [Function.update_of_ne hMutex]
        by_cases hOther : other = thread
        · subst hOther
          rw [hHolds m, hOwned other m]
          simp [hMutex]
        · exact hSame hOther
  | unlock mutex hHeld hOwner hHolds =>
      rw [hOwner]
      by_cases hMutex : m = mutex
      · subst hMutex
        rw [Function.update_self]
        by_cases hOther : other = thread
        · subst hOther
          simp [hHolds m]
        · have hMine := (hOwned thread m).mpr hHeld
          have hNot : ¬ holds' other m := by
            rw [← hSame hOther, hMine]
            intro hEqual
            exact hOther (Option.some.inj hEqual).symm
          simp [hNot]
      · rw [Function.update_of_ne hMutex]
        by_cases hOther : other = thread
        · subst hOther
          rw [hHolds m, hOwned other m]
          simp [hMutex]
        · exact hSame hOther

/- A step in which nobody locks or unlocks. -/
theorem Owned.congr
    (hOwned : Owned owner holds)
    (hOwner : owner' = owner)
    (hHolds : ∀ thread m, holds' thread m ↔ holds thread m) :
    Owned owner' holds' := by
  intro thread m
  rw [hOwner, hHolds thread m]
  exact hOwned thread m

/- The mutex that `thread` wants is owned by `other`. -/
def WaitsFor
    (owner : Mutex → Option Thread)
    (wants : Thread → Option Mutex)
    (thread other : Thread) : Prop :=
  ∃ mutex, wants thread = some mutex ∧
    owner mutex = some other

/-
  If the threads take their mutexes in an order, apart from
  some exempt ones, then whoever waits waits in the end for
  a thread that is exempt or waits for nobody.
-/
theorem Owned.exists_last
    {wants : Thread → Option Mutex}
    {Exempt : Thread → Prop}
    {rank : Mutex → Nat}
    {bound : Nat}
    (hOwned : Owned owner holds)
    (hBound : ∀ mutex, rank mutex ≤ bound)
    (hOrder :
      ∀ thread mutex held,
        ¬ Exempt thread →
        wants thread = some mutex →
        holds thread held →
          rank held < rank mutex)
    (thread : Thread) :
    ∃ last,
      Relation.ReflTransGen (WaitsFor owner wants) thread
          last ∧
        (Exempt last ∨
          ∀ mutex, wants last = some mutex →
            owner mutex = none) := by
  -- each link of the chain wants a mutex of a higher rank
  induction hLeft :
      bound - ((wants thread).map rank).getD bound using
      Nat.strong_induction_on generalizing thread with
  | _ left ih =>
      by_cases hExempt : Exempt thread
      · exact ⟨thread, .refl, Or.inl hExempt⟩
      cases hWants : wants thread with
      | none =>
          refine ⟨thread, .refl, Or.inr ?_⟩
          intro mutex hMutex
          rw [hWants] at hMutex
          cases hMutex
      | some mutex =>
          cases hOwner : owner mutex with
          | none =>
              refine ⟨thread, .refl, Or.inr ?_⟩
              intro other hMutex
              rw [hWants] at hMutex
              cases hMutex
              exact hOwner
          | some next =>
              have hWaits : WaitsFor owner wants thread next :=
                ⟨mutex, hWants, hOwner⟩
              have hHolds := (hOwned next mutex).mp hOwner
              have hLess :
                  bound -
                      ((wants next).map rank).getD bound <
                    left ∨
                    Exempt next ∨ wants next = none := by
                by_cases hNext : Exempt next
                · exact Or.inr (Or.inl hNext)
                cases hMore : wants next with
                | none => exact Or.inr (Or.inr rfl)
                | some more =>
                    have hRank :=
                      hOrder next more mutex hNext hMore
                        hHolds
                    have hTop := hBound more
                    rw [hWants] at hLeft
                    simp only [Option.map_some,
                      Option.getD_some] at hLeft ⊢
                    left
                    omega
              rcases hLess with hLess | hNext | hNone
              · rcases ih _ hLess next rfl with
                  ⟨last, hChain, hLast⟩
                exact ⟨last, hChain.head hWaits, hLast⟩
              · exact ⟨next, .single hWaits, Or.inl hNext⟩
              · refine ⟨next, .single hWaits, Or.inr ?_⟩
                intro other hOther
                rw [hNone] at hOther
                cases hOther

end Mutexes
