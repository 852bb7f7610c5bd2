import Nkurdt.Sender.Mutexes

/-
  Calls that meet a handler at `state_mutex_`.

  A call sends its request under `state_mutex_`, and
  `send_packet` may wait there: for a slot of the window,
  which only `recv_handler` frees, and for the mutex of the
  pool, which `send_handler` keeps while it reports retries
  that are used up. Both handlers want `state_mutex_` for
  what they report. They deadlock with the caller if the one
  of them comes to the mutex while the caller still has to
  wait. A step that does not let the two meet keeps the
  sender free of deadlock.

  Main declarations:
    * `Sender.Deadlocked`
    * `Sender.deadlocked_step`
    * `Sender.NoCollision`
    * `Sender.not_deadlocked`
    * `Sender.exists_deadlocked`
-/

------------------------------------------------------------
-- Deadlock
------------------------------------------------------------

namespace Nkurdt

namespace CallerPc

/- Waiting for a slot, with `state_mutex_` held. -/
def WaitsForSlot : CallerPc → Prop
| .waitWindow t => t.IsRequest
| .testRunning t => t.IsRequest
| _ => False

/- Waiting for the pool, with `state_mutex_` held. -/
def WaitsForPool : CallerPc → Prop
| .lockPool t _ => t.IsRequest
| _ => False

/- In `send_packet` of a request, before it has the pool. -/
def BeforePool : CallerPc → Prop
| .waitWindow t => t.IsRequest
| .testRunning t => t.IsRequest
| .upperBound t => t.IsRequest
| .updateUpper t _ => t.IsRequest
| .lockPool t _ => t.IsRequest
| _ => False

instance (pc : CallerPc) : Decidable pc.WaitsForSlot := by
  unfold WaitsForSlot
  split <;> infer_instance

instance (pc : CallerPc) : Decidable pc.WaitsForPool := by
  unfold WaitsForPool
  split <;> infer_instance

instance (pc : CallerPc) : Decidable pc.BeforePool := by
  unfold BeforePool
  split <;> infer_instance

end CallerPc

def SendPc.WaitsForState : SendPc → Prop
| .lockState _ => True
| _ => False

instance (pc : SendPc) : Decidable pc.WaitsForState := by
  unfold SendPc.WaitsForState
  split <;> infer_instance

def RecvPc.WaitsForState : RecvPc → Prop
| .lockState _ _ => True
| _ => False

instance (pc : RecvPc) : Decidable pc.WaitsForState := by
  unfold RecvPc.WaitsForState
  split <;> infer_instance

namespace Sender

/-
  The caller holds `state_mutex_` inside `send_packet` and
  waits for a slot or for the pool, and what it waits for is
  behind a handler that waits for `state_mutex_`. A slot is
  behind `recv_handler`, and behind `send_handler` too: it
  keeps `acked_seq_set_mutex_`, without which no slot is
  freed.
-/
def Deadlocked (s : Sender) : Prop :=
  s.locks.state = some .caller ∧
    (s.callerPc.WaitsForSlot ∧ ¬ s.window.Available ∧
        (s.recvPc.WaitsForState ∨ s.sendPc.WaitsForState) ∨
      s.callerPc.WaitsForPool ∧
        s.locks.packetPool = some .sendHandler ∧
        s.sendPc.WaitsForState)

instance (s : Sender) : Decidable s.Deadlocked :=
  inferInstanceAs (Decidable (_ ∧ _))

end Sender

end Nkurdt

------------------------------------------------------------
-- A Deadlock Stays
------------------------------------------------------------

namespace Nkurdt

namespace Sender

/- A waiting thread that is notified waits elsewhere. -/
theorem callerPc_of_wake
    {pc pc' : CallerPc}
    (hCaller : pc' = pc ∨ pc' = wake pc)
    (hInside : pc.InState) :
    pc' = pc := by
  rcases hCaller with rfl | rfl
  · rfl
  · cases pc
    case wait r => exact hInside.elim
    all_goals rfl

/- A waiting caller is in the section it waits in. -/
theorem inState_of_beforePool
    {pc : CallerPc}
    (hBefore : pc.BeforePool) :
    pc.InState := by
  cases pc
  all_goals first
    | exact hBefore
    | exact hBefore.elim

theorem beforePool_of_waitsForSlot
    {pc : CallerPc}
    (hWaits : pc.WaitsForSlot) :
    pc.BeforePool := by
  cases pc
  all_goals first
    | exact hWaits
    | exact hWaits.elim

theorem beforePool_of_waitsForPool
    {pc : CallerPc}
    (hWaits : pc.WaitsForPool) :
    pc.BeforePool := by
  cases pc
  all_goals first
    | exact hWaits
    | exact hWaits.elim

/- A handler that waits for a taken mutex has no step. -/
theorem sendHandlerStep_of_waits
    {s : Sender}
    (hWaits : s.sendPc.WaitsForState)
    (hTaken : s.locks.state ≠ none) :
    s.sendHandlerStep = none := by
  unfold sendHandlerStep
  cases hPc : s.sendPc
  case lockState seq => exact if_neg hTaken
  all_goals
    have hNever : False := by
      rw [hPc] at hWaits
      exact hWaits
    exact hNever.elim

theorem recvHandlerStep_of_waits
    {s : Sender}
    (hWaits : s.recvPc.WaitsForState)
    (hTaken : s.locks.state ≠ none) :
    s.recvHandlerStep = none := by
  unfold recvHandlerStep
  cases hPc : s.recvPc
  case lockState target packet => exact if_neg hTaken
  all_goals
    have hNever : False := by
      rw [hPc] at hWaits
      exact hWaits
    exact hNever.elim

/- No slot is freed outside the section of the other mutex. -/
theorem window_recvHandlerStep
    {s s' : Sender}
    (hOutside : ¬ s.recvPc.InAcked)
    (hStep : s.recvHandlerStep = some s') :
    s'.window = s.window := by
  cases recvHandlerStep_branch hStep with
  | setsLower hPc | slides hPc =>
      rw [hPc] at hOutside
      exact absurd trivial hOutside
  | _ => rfl

/- The pool's mutex is no business of `recv_handler`. -/
theorem poolOwner_recvHandlerStep
    {s s' : Sender}
    (hStep : s.recvHandlerStep = some s') :
    s'.locks.packetPool = s.locks.packetPool := by
  cases recvHandlerStep_branch hStep
  all_goals rfl

theorem poolOwner_timeoutHandlerStep
    {s s' : Sender}
    (hStep : s.timeoutHandlerStep = some s') :
    s'.locks.packetPool = s.locks.packetPool := by
  cases timeoutHandlerStep_branch hStep
  all_goals rfl

/- What a deadlock depends on has not changed. -/
theorem Deadlocked.congr
    {s s' : Sender}
    (hDead : s.Deadlocked)
    (hOwner : s'.locks.state = some .caller)
    (hCaller : s'.callerPc = s.callerPc)
    (hWindow : s'.window = s.window)
    (hPool : s'.locks.packetPool = s.locks.packetPool)
    (hRecv :
      s.recvPc.WaitsForState → s'.recvPc.WaitsForState)
    (hSend :
      s.sendPc.WaitsForState → s'.sendPc.WaitsForState) :
    s'.Deadlocked := by
  refine ⟨hOwner, ?_⟩
  rw [hCaller, hWindow, hPool]
  rcases hDead.2 with
    ⟨hSlot, hFull, hHandler⟩ | ⟨hWaits, hTaken, hHandler⟩
  · exact Or.inl ⟨hSlot, hFull, hHandler.imp hRecv hSend⟩
  · exact Or.inr ⟨hWaits, hTaken, hSend hHandler⟩

/- The caller has nothing to do but to wait on. -/
theorem deadlocked_callerStep
    {s s' : Sender}
    (hDead : s.Deadlocked)
    (hStep : s.callerStep = some s') :
    s'.Deadlocked ∨ s.running = false := by
  unfold callerStep at hStep
  rcases hDead with
    ⟨hOwner, ⟨hSlot, hFull, hHandler⟩ | ⟨hPool, hTaken, _⟩⟩
  · cases hPc : s.callerPc
    case waitWindow t =>
      rw [hPc] at hSlot
      simp only [hPc, if_neg hFull, whenFree_eq_some]
        at hStep
      rcases hStep with ⟨_, rfl⟩
      exact Or.inl
        ⟨hOwner, Or.inl ⟨hSlot, hFull, hHandler⟩⟩
    case testRunning t =>
      rw [hPc] at hSlot
      cases hRunning : s.running with
      | false => exact Or.inr rfl
      | true =>
          simp only [hPc, hRunning, if_true,
            Option.some.injEq] at hStep
          subst hStep
          exact Or.inl
            ⟨hOwner, Or.inl ⟨hSlot, hFull, hHandler⟩⟩
    all_goals
      rw [hPc] at hSlot
      exact hSlot.elim
  · cases hPc : s.callerPc
    case lockPool t seq =>
      simp only [hPc, hTaken, whenFree_eq_some, reduceCtorEq,
        false_and] at hStep
    all_goals
      rw [hPc] at hPool
      exact hPool.elim

/- While `send_handler` waits, no slot is freed. -/
theorem not_inAcked_of_waits
    {s : Sender}
    (hGuarded : MutexesGuarded s)
    (hWaits : s.sendPc.WaitsForState) :
    ¬ s.recvPc.InAcked := by
  intro hRecv
  have hSend : s.sendPc.InAcked := by
    cases hPc : s.sendPc
    case lockState seq => exact trivial
    all_goals
      rw [hPc] at hWaits
      exact hWaits.elim
  have hSame : Thread.sendHandler = Thread.recvHandler :=
    hGuarded.acked.exclusive hSend hRecv
  cases hSame

/-
  A deadlock stays. The only way out is that the caller of
  a sender that is not running gives up its wait.
-/
theorem deadlocked_step
    {s s' : Sender}
    {action : Action}
    (hGuarded : MutexesGuarded s)
    (hDead : s.Deadlocked)
    (hStep : s.step action = some s') :
    s'.Deadlocked ∨ s.running = false := by
  have hTaken : s.locks.state ≠ none := by
    rw [hDead.1]
    exact Option.some_ne_none _
  have hInside : s.callerPc.InState := by
    apply inState_of_beforePool
    rcases hDead.2 with ⟨hSlot, _⟩ | ⟨hPool, _⟩
    · exact beforePool_of_waitsForSlot hSlot
    · exact beforePool_of_waitsForPool hPool
  cases action with
  | call call =>
      rw [(callStep_keeps hStep).idle] at hInside
      exact hInside.elim
  | thread thread =>
      cases thread with
      | caller => exact deadlocked_callerStep hDead hStep
      | sendHandler =>
          have hKeeps := sendHandlerStep_keeps hStep
          have hMoves := moves_sendHandlerStep hStep
          have hRuns : ¬ s.sendPc.WaitsForState := by
            intro hWaits
            have hNone :=
              sendHandlerStep_of_waits hWaits hTaken
            unfold step threadStep at hStep
            dsimp only at hStep
            rw [hNone] at hStep
            cases hStep
          rcases hDead.2 with
            ⟨hSlot, hFull, hHandler⟩ | ⟨_, _, hWaits⟩
          · refine Or.inl ⟨?_, Or.inl ⟨?_, ?_, ?_⟩⟩
            · exact hGuarded.state.owner_of_move hMoves.1
                hDead.1 (by decide)
            · rw [callerPc_of_wake hKeeps.callerPc hInside]
              exact hSlot
            · rw [hKeeps.window]
              exact hFull
            · rw [hKeeps.recvPc]
              exact Or.inl (hHandler.resolve_right hRuns)
          · exact absurd hWaits hRuns
      | recvHandler =>
          have hKeeps := recvHandlerStep_keeps hStep
          have hMoves := moves_recvHandlerStep hStep
          have hRuns : ¬ s.recvPc.WaitsForState := by
            intro hWaits
            have hNone :=
              recvHandlerStep_of_waits hWaits hTaken
            unfold step threadStep at hStep
            dsimp only at hStep
            rw [hNone] at hStep
            cases hStep
          have hSend : s.sendPc.WaitsForState := by
            rcases hDead.2 with
              ⟨_, _, hHandler⟩ | ⟨_, _, hWaits⟩
            · exact hHandler.resolve_left hRuns
            · exact hWaits
          refine Or.inl (hDead.congr ?_ ?_ ?_
            (poolOwner_recvHandlerStep hStep) ?_ ?_)
          · exact hGuarded.state.owner_of_move hMoves.1
              hDead.1 (by decide)
          · exact callerPc_of_wake hKeeps.callerPc hInside
          · exact window_recvHandlerStep
              (not_inAcked_of_waits hGuarded hSend) hStep
          · exact fun hWaits => absurd hWaits hRuns
          · rw [hKeeps.sendPc]
            exact fun hWaits => hWaits
      | timeoutHandler =>
          have hKeeps := timeoutHandlerStep_keeps hStep
          have hOwners := owners_timeoutHandlerStep hStep
          refine Or.inl (hDead.congr
            (hOwners.1.trans hDead.1) hKeeps.callerPc
            hKeeps.window
            (poolOwner_timeoutHandlerStep hStep) ?_ ?_)
          · rw [hKeeps.recvPc]
            exact fun hWaits => hWaits
          · rw [hKeeps.sendPc]
            exact fun hWaits => hWaits
  | timer =>
      rcases Option.map_eq_some_iff.mp hStep with
        ⟨timer, _, rfl⟩
      exact Or.inl (hDead.congr hDead.1 rfl rfl rfl
        (fun hWaits => hWaits) (fun hWaits => hWaits))
  | recv result =>
      have hKeeps := recvStep_keeps hStep
      refine Or.inl (hDead.congr ?_ ?_ hKeeps.window ?_ ?_ ?_)
      · rw [hKeeps.locks]
        exact hDead.1
      · exact callerPc_of_wake hKeeps.callerPc hInside
      · rw [hKeeps.locks]
      · rw [hKeeps.recvPc]
        exact fun hWaits => hWaits.elim
      · rw [hKeeps.sendPc]
        exact fun hWaits => hWaits
  | tick duration =>
      rw [← Option.some.inj hStep]
      exact Or.inl (hDead.congr hDead.1 rfl rfl rfl
        (fun hWaits => hWaits) (fun hWaits => hWaits))
  | wakeCaller =>
      rw [← Option.some.inj hStep]
      exact Or.inl (hDead.congr hDead.1
        (callerPc_of_wake (Or.inr rfl) hInside) rfl rfl
        (fun hWaits => hWaits) (fun hWaits => hWaits))
  | wakeTimer =>
      rw [← Option.some.inj hStep]
      exact Or.inl (hDead.congr hDead.1 rfl rfl rfl
        (fun hWaits => hWaits) (fun hWaits => hWaits))

end Sender

end Nkurdt

------------------------------------------------------------
-- Collisions
------------------------------------------------------------

namespace Nkurdt

namespace Sender

/- The call will send its request once it has the mutex. -/
def WillSend (s : Sender) (r : Request) : Prop :=
  ¬ (r = .disconnect ∧ s.state = .idle)

instance (s : Sender) (r : Request) :
    Decidable (s.WillSend r) :=
  inferInstanceAs (Decidable (¬ _))

/- About to send a request, with `state_mutex_` held. -/
def Entering (s : Sender) : Prop :=
  match s.callerPc with
  | .enter r => s.WillSend r
  | _ => False

instance (s : Sender) : Decidable s.Entering := by
  unfold Entering
  split <;> infer_instance

/- The caller holds `state_mutex_` and needs a slot. -/
def NeedsSlot (s : Sender) : Prop :=
  s.Entering ∨ s.callerPc.WaitsForSlot

instance (s : Sender) : Decidable s.NeedsSlot :=
  inferInstanceAs (Decidable (_ ∨ _))

/- The caller holds `state_mutex_` and needs the pool. -/
def NeedsPool (s : Sender) : Prop :=
  s.Entering ∨ s.callerPc.BeforePool

instance (s : Sender) : Decidable s.NeedsPool :=
  inferInstanceAs (Decidable (_ ∨ _))

/- `send_handler` is about to find the retries used up. -/
def FindsUsedUp (s : Sender) : Prop :=
  match s.sendPc with
  | .retry seq =>
      match s.retryCount seq with
      | some count => s.maxRetryCount ≤ count
      | none => False
  | _ => False

instance (s : Sender) : Decidable s.FindsUsedUp := by
  unfold FindsUsedUp
  split
  · split <;> infer_instance
  · infer_instance

/- `recv_handler` is about to take an acknowledgement. -/
def TakesAck (s : Sender) : Prop :=
  match s.recvPc with
  | .dispatch packet => ackTarget s.state packet.kind ≠ none
  | _ => False

instance (s : Sender) : Decidable s.TakesAck := by
  unfold TakesAck
  split <;> infer_instance

/- The caller is about to lock the mutex for a request. -/
def LocksForRequest (s : Sender) : Prop :=
  match s.callerPc with
  | .lockState r => s.WillSend r
  | _ => False

instance (s : Sender) : Decidable s.LocksForRequest := by
  unfold LocksForRequest
  split <;> infer_instance

/-
  The step does not bring a handler and the caller together
  at `state_mutex_`: no retries are found used up while the
  caller needs the pool, no acknowledgement changes the
  state while it needs a slot of a full window, and it does
  not lock the mutex with such a report on its way.
-/
def NoCollision (s : Sender) : Action → Prop
| .thread .sendHandler => s.FindsUsedUp → ¬ s.NeedsPool
| .thread .recvHandler =>
    s.TakesAck → s.NeedsSlot → s.window.Available
| .thread .caller =>
    s.LocksForRequest →
      ¬ s.sendPc.WaitsForState ∧
        (s.recvPc.WaitsForState → s.window.Available)
| _ => True

instance (s : Sender) (action : Action) :
    Decidable (s.NoCollision action) := by
  unfold NoCollision
  split <;> infer_instance

/- No handler waits for the mutex while it matters. -/
structure Apart (s : Sender) : Prop where
  guarded : MutexesGuarded s
  slot :
    s.NeedsSlot → s.recvPc.WaitsForState →
      s.window.Available
  pool : s.NeedsPool → ¬ s.sendPc.WaitsForState

theorem apart_fresh
    (config : SenderConfig) :
    Apart (fresh config) := by
  refine ⟨mutexesGuarded_fresh config, ?_, ?_⟩
  · exact fun _ hWaits => hWaits.elim
  · exact fun _ hWaits => hWaits.elim

theorem not_deadlocked_of_apart
    {s : Sender}
    (hApart : Apart s) :
    ¬ s.Deadlocked := by
  intro hDead
  rcases hDead.2 with
    ⟨hSlot, hFull, hRecv | hSend⟩ | ⟨hPool, _, hSend⟩
  · exact hFull (hApart.slot (Or.inr hSlot) hRecv)
  · exact hApart.pool
      (Or.inr (beforePool_of_waitsForSlot hSlot)) hSend
  · exact hApart.pool
      (Or.inr (beforePool_of_waitsForPool hPool)) hSend

theorem inState_of_entering
    {s : Sender}
    (hEntering : s.Entering) :
    s.callerPc.InState := by
  unfold Entering at hEntering
  cases hPc : s.callerPc
  case enter r => exact trivial
  all_goals
    rw [hPc] at hEntering
    exact hEntering.elim

/-
  A caller that is not stepping needs no more than before,
  if the state it enters from does not stop to be idle.
-/
theorem entering_of_wake
    {s s' : Sender}
    (hCaller :
      s'.callerPc = s.callerPc ∨
        s'.callerPc = wake s.callerPc)
    (hIdle :
      s.callerPc.InState →
        s.state = .idle → s'.state = .idle)
    (hEntering : s'.Entering) :
    s.Entering := by
  have hInside : s.callerPc.InState :=
    inState_of_wake hCaller (inState_of_entering hEntering)
  have hSame := callerPc_of_wake hCaller hInside
  unfold Entering at hEntering ⊢
  rw [hSame] at hEntering
  cases hPc : s.callerPc
  case enter r =>
    rw [hPc] at hEntering
    intro hBoth
    exact hEntering ⟨hBoth.1, hIdle hInside hBoth.2⟩
  all_goals
    rw [hPc] at hEntering
    exact hEntering.elim

/- The same for both needs. -/
theorem needs_of_wake
    {s s' : Sender}
    (hCaller :
      s'.callerPc = s.callerPc ∨
        s'.callerPc = wake s.callerPc)
    (hIdle :
      s.callerPc.InState →
        s.state = .idle → s'.state = .idle) :
    (s'.NeedsSlot → s.NeedsSlot) ∧
      (s'.NeedsPool → s.NeedsPool) := by
  have hPool :
      s'.callerPc.BeforePool →
        s'.callerPc = s.callerPc := by
    intro hBefore
    exact callerPc_of_wake hCaller
      (inState_of_wake hCaller
        (inState_of_beforePool hBefore))
  constructor
  · refine Or.imp (entering_of_wake hCaller hIdle) ?_
    intro hSlot
    rw [← hPool (beforePool_of_waitsForSlot hSlot)]
    exact hSlot
  · refine Or.imp (entering_of_wake hCaller hIdle) ?_
    intro hBefore
    rw [← hPool hBefore]
    exact hBefore

/- A call enters only by locking the mutex. -/
theorem entering_callerStep
    {s s' : Sender}
    (hStep : s.callerStep = some s')
    (hEntering : s'.Entering) :
    s.LocksForRequest ∧ s'.window = s.window := by
  unfold Entering at hEntering
  cases callerStep_branch hStep with
  | locksState hPc =>
      refine ⟨?_, rfl⟩
      unfold LocksForRequest
      rw [hPc]
      exact hEntering
  | @abandons t | @unlocksPool t =>
      cases t <;> exact hEntering.elim
  | _ => exact hEntering.elim

theorem needsPool_of_needsSlot
    {s : Sender}
    (hSlot : s.NeedsSlot) :
    s.NeedsPool :=
  hSlot.imp_right beforePool_of_waitsForSlot

/-
  It gets to the pool by way of entering and of a slot, and
  moves no bound before it has its slot.
-/
theorem beforePool_callerStep
    {s s' : Sender}
    (hStep : s.callerStep = some s')
    (hBefore : s'.callerPc.BeforePool) :
    s.NeedsSlot ∧ s'.window = s.window ∨
      s.callerPc.BeforePool ∧
        ¬ s'.callerPc.WaitsForSlot := by
  cases callerStep_branch hStep with
  | enters hPc hBusy =>
      refine Or.inl ⟨Or.inl ?_, rfl⟩
      unfold Entering
      rw [hPc]
      exact hBusy
  | findsRoom hPc | findsFull hPc | waitsOn hPc =>
      refine Or.inl ⟨Or.inr ?_, rfl⟩
      rw [hPc]
      exact hBefore
  | readsUpper hPc | updatesUpper hPc =>
      refine Or.inr ⟨?_, fun hWaits => hWaits⟩
      rw [hPc]
      exact hBefore
  | @abandons t | @unlocksPool t =>
      cases t <;> exact hBefore.elim
  | _ => exact hBefore.elim

/- How the handlers come to wait for the mutex. -/
theorem waitsForState_sendHandlerStep
    {s s' : Sender}
    (hStep : s.sendHandlerStep = some s')
    (hWaits : s'.sendPc.WaitsForState) :
    s.FindsUsedUp := by
  cases sendHandlerStep_branch hStep with
  | usesUp hPc hCount hUsedUp =>
      unfold FindsUsedUp
      rw [hPc]
      dsimp only
      rw [hCount]
      exact hUsedUp
  | _ => exact hWaits.elim

theorem waitsForState_recvHandlerStep
    {s s' : Sender}
    (hStep : s.recvHandlerStep = some s')
    (hWaits : s'.recvPc.WaitsForState) :
    s.TakesAck ∧ s'.window = s.window := by
  cases recvHandlerStep_branch hStep with
  | takes hPc hTarget =>
      refine ⟨?_, rfl⟩
      unfold TakesAck
      rw [hPc]
      dsimp only
      rw [hTarget]
      exact Option.some_ne_none _
  | _ => exact hWaits.elim

/- A step of `send_handler` does not end the idle state. -/
theorem idle_sendHandlerStep
    {s s' : Sender}
    (hStep : s.sendHandlerStep = some s')
    (hIdle : s.state = .idle) :
    s'.state = .idle := by
  cases sendHandlerStep_branch hStep with
  | failsTransfer _ hState =>
      rw [hIdle] at hState
      rcases hState with hState | hState
      all_goals cases hState
  | failsConnection => rfl
  | _ => exact hIdle

/- `recv_handler` writes the state under the mutex only. -/
theorem state_recvHandlerStep
    {s s' : Sender}
    (hOutside : ¬ s.recvPc.InState)
    (hStep : s.recvHandlerStep = some s') :
    s'.state = s.state := by
  cases recvHandlerStep_branch hStep with
  | setsState hPc =>
      rw [hPc] at hOutside
      exact absurd trivial hOutside
  | _ => rfl

end Sender

end Nkurdt

------------------------------------------------------------
-- Runs Without Collisions
------------------------------------------------------------

namespace Nkurdt

namespace Sender

theorem apart_callerStep
    {s s' : Sender}
    (hApart : Apart s)
    (hStep : s.callerStep = some s')
    (hClear : s.NoCollision (.thread .caller)) :
    Apart s' := by
  have hKeeps := callerStep_keeps hStep
  refine
    ⟨mutexesGuarded_callerStep hApart.guarded hStep, ?_, ?_⟩
  · intro hNeeds hWaits
    rw [hKeeps.recvPc] at hWaits
    rcases hNeeds with hEntering | hSlot
    · rcases entering_callerStep hStep hEntering with
        ⟨hLocks, hWindow⟩
      rw [hWindow]
      exact (hClear hLocks).2 hWaits
    · rcases beforePool_callerStep hStep
        (beforePool_of_waitsForSlot hSlot) with
          ⟨hOld, hWindow⟩ | ⟨_, hPast⟩
      · rw [hWindow]
        exact hApart.slot hOld hWaits
      · exact absurd hSlot hPast
  · intro hNeeds
    rw [hKeeps.sendPc]
    rcases hNeeds with hEntering | hBefore
    · exact (hClear
        (entering_callerStep hStep hEntering).1).1
    · apply hApart.pool
      rcases beforePool_callerStep hStep hBefore with
        ⟨hSlot, _⟩ | ⟨hOld, _⟩
      · exact needsPool_of_needsSlot hSlot
      · exact Or.inr hOld

theorem apart_sendHandlerStep
    {s s' : Sender}
    (hApart : Apart s)
    (hStep : s.sendHandlerStep = some s')
    (hClear : s.NoCollision (.thread .sendHandler)) :
    Apart s' := by
  have hKeeps := sendHandlerStep_keeps hStep
  have hNeeds :=
    needs_of_wake hKeeps.callerPc
      (fun _ => idle_sendHandlerStep hStep)
  refine
    ⟨mutexesGuarded_sendHandlerStep hApart.guarded hStep,
      ?_, ?_⟩
  · intro hSlot hWaits
    rw [hKeeps.window]
    rw [hKeeps.recvPc] at hWaits
    exact hApart.slot (hNeeds.1 hSlot) hWaits
  · intro hPool hWaits
    exact hClear (waitsForState_sendHandlerStep hStep hWaits)
      (hNeeds.2 hPool)

theorem apart_recvHandlerStep
    {s s' : Sender}
    (hApart : Apart s)
    (hStep : s.recvHandlerStep = some s')
    (hClear : s.NoCollision (.thread .recvHandler)) :
    Apart s' := by
  have hKeeps := recvHandlerStep_keeps hStep
  have hIdle :
      s.callerPc.InState →
        s.state = .idle → s'.state = .idle := by
    intro hCaller hState
    rw [state_recvHandlerStep ?_ hStep]
    · exact hState
    · intro hRecv
      have hSame : Thread.caller = Thread.recvHandler :=
        hApart.guarded.state.exclusive hCaller hRecv
      cases hSame
  have hNeeds := needs_of_wake hKeeps.callerPc hIdle
  refine
    ⟨mutexesGuarded_recvHandlerStep hApart.guarded hStep,
      ?_, ?_⟩
  · intro hSlot hWaits
    rcases waitsForState_recvHandlerStep hStep hWaits with
      ⟨hTakes, hWindow⟩
    rw [hWindow]
    exact hClear hTakes (hNeeds.1 hSlot)
  · intro hPool
    rw [hKeeps.sendPc]
    exact hApart.pool (hNeeds.2 hPool)

/- A step of anyone else. -/
theorem apart_of_bystander
    {s s' : Sender}
    (hApart : Apart s)
    (hGuarded : MutexesGuarded s')
    (hCaller :
      s'.callerPc = s.callerPc ∨
        s'.callerPc = wake s.callerPc)
    (hState : s'.state = s.state)
    (hWindow : s'.window = s.window)
    (hSend : s'.sendPc = s.sendPc)
    (hRecv :
      s'.recvPc.WaitsForState → s.recvPc.WaitsForState) :
    Apart s' := by
  have hNeeds :=
    needs_of_wake hCaller (fun _ hIdle => hState.trans hIdle)
  refine ⟨hGuarded, ?_, ?_⟩
  · intro hSlot hWaits
    rw [hWindow]
    exact hApart.slot (hNeeds.1 hSlot) (hRecv hWaits)
  · intro hPool
    rw [hSend]
    exact hApart.pool (hNeeds.2 hPool)

/- A step without a collision keeps the handlers apart. -/
theorem apart_step
    {s s' : Sender}
    {action : Action}
    (hApart : Apart s)
    (hStep : s.step action = some s')
    (hClear : NoCollision s action) :
    Apart s' := by
  have hGuarded := mutexesGuarded_step hApart.guarded hStep
  cases action with
  | call call =>
      have hNothing : ¬ s'.NeedsPool := by
        unfold NeedsPool Entering
        rcases (callStep_keeps hStep).starts with
          ⟨_, hPc⟩ | hPc
        all_goals
          rw [hPc]
          exact fun hNeeds => hNeeds.elim id id
      exact ⟨hGuarded,
        fun hSlot => absurd (needsPool_of_needsSlot hSlot)
          hNothing,
        fun hPool => absurd hPool hNothing⟩
  | thread thread =>
      cases thread with
      | caller =>
          exact apart_callerStep hApart hStep
            hClear
      | sendHandler =>
          exact apart_sendHandlerStep hApart hStep
            hClear
      | recvHandler =>
          exact apart_recvHandlerStep hApart hStep
            hClear
      | timeoutHandler =>
          have hKeeps := timeoutHandlerStep_keeps hStep
          apply apart_of_bystander hApart hGuarded
            (Or.inl hKeeps.callerPc) hKeeps.state
            hKeeps.window hKeeps.sendPc
          rw [hKeeps.recvPc]
          exact fun hWaits => hWaits
  | timer =>
      rcases Option.map_eq_some_iff.mp hStep with
        ⟨timer, _, rfl⟩
      exact apart_of_bystander hApart hGuarded (Or.inl rfl)
        rfl rfl rfl (fun hWaits => hWaits)
  | recv result =>
      have hKeeps := recvStep_keeps hStep
      apply apart_of_bystander hApart hGuarded
        hKeeps.callerPc hKeeps.state hKeeps.window
        hKeeps.sendPc
      intro hWaits
      rcases hKeeps.next with ⟨bytes, hNext⟩ | hNext
      · rw [hNext] at hWaits
        exact hWaits.elim
      · rw [hNext] at hWaits
        exact hWaits.elim
  | tick duration =>
      rw [← Option.some.inj hStep] at hGuarded ⊢
      exact apart_of_bystander hApart hGuarded (Or.inl rfl)
        rfl rfl rfl (fun hWaits => hWaits)
  | wakeCaller =>
      rw [← Option.some.inj hStep] at hGuarded ⊢
      exact apart_of_bystander hApart hGuarded (Or.inr rfl)
        rfl rfl rfl (fun hWaits => hWaits)
  | wakeTimer =>
      rw [← Option.some.inj hStep] at hGuarded ⊢
      exact apart_of_bystander hApart hGuarded (Or.inl rfl)
        rfl rfl rfl (fun hWaits => hWaits)

open Runs

/-
  As long as no step lets a handler and the caller collide,
  no state of the run is deadlocked.
-/
theorem not_deadlocked
    {config : SenderConfig}
    {s : Sender}
    (hReach :
      Reaches step (fun current action _ =>
        NoCollision current action) (fresh config) s) :
    ¬ s.Deadlocked := by
  have hApart : Apart s :=
    hReach.invariant (apart_fresh config)
      (fun _ _ _ hCurrent hNext hAllowed =>
        apart_step hCurrent hNext hAllowed)
  exact not_deadlocked_of_apart hApart

/- A connection whose request goes out without a collision. -/
theorem not_deadlocked_connect :
    ∃ s,
      Reaches step (fun current action _ =>
        NoCollision current action)
        (fresh ⟨1, 0, 1, false, false⟩) s ∧
      s.history.wire.length = 1 ∧ ¬ s.Deadlocked := by
  have hRun :
      ∃ s,
        Reaches step (fun current action _ =>
          NoCollision current action)
          (fresh ⟨1, 0, 1, false, false⟩) s ∧
        s.history.wire.length = 1 :=
    exists_reaches_of_runActions
      ([Action.call (.connect ⟨0, 1⟩)] ++ steps .caller 10 ++
        steps .sendHandler 13)
      (by decide +kernel)
  rcases hRun with ⟨s, hReach, hWire⟩
  exact ⟨s, hReach, hWire, not_deadlocked hReach⟩

/-
  A connection that times out, then another one. The first
  request keeps the only slot, so the second call waits for
  it with `state_mutex_` held; the acknowledgement of the
  first comes late and `recv_handler` wants the mutex.
-/
theorem exists_deadlocked :
    ∃ s,
      Reaches step (fun _ _ _ => True)
        (fresh ⟨1, 0, 1, false, false⟩) s ∧
      (s.Deadlocked ∧ s.running = true) :=
  exists_reaches_of_runActions
    ([Action.call (.connect ⟨0, 1⟩)] ++ steps .caller 10 ++
      steps .sendHandler 13 ++
      [Action.tick 1000000, .timer, .timer, .timer, .timer] ++
      steps .timeoutHandler 8 ++ steps .sendHandler 14 ++
      steps .caller 3 ++
      [Action.call (.connect ⟨0, 1⟩)] ++ steps .caller 3 ++
      steps .recvHandler 1 ++
      [Action.recv (.datagram
        (Packet.toBytes ⟨version, .connAck, 1, []⟩) ⟨0, 1⟩)] ++
      steps .recvHandler 2)
    (by decide +kernel)

end Sender

end Nkurdt
