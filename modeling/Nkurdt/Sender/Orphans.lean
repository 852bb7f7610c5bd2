import Nkurdt.Sender.Retry

/-
  Callers that nobody will wake.

  The waits of `state_cvar_` test `state_` alone, and what
  clears `running_` does not notify. A call that waits when
  `running_` is cleared, or begins to wait afterwards, is left
  alone as soon as both handlers have terminated.

  Main declarations:
    * `Sender.Orphaned`
    * `Sender.Attended`
    * `Sender.not_orphaned`
    * `Sender.exists_orphaned`
-/

------------------------------------------------------------
-- Orphaned Callers
------------------------------------------------------------

namespace Nkurdt

/-
  `recv_handler` takes no further step. A read outside the
  datagram is the end of what the model knows of it.
-/
def RecvPc.Terminated (pc : RecvPc) : Prop :=
  pc = .exit ∨ pc = .undefined

instance (pc : RecvPc) : Decidable pc.Terminated :=
  inferInstanceAs (Decidable (_ ∨ _))

/- Between setting the state and notifying the caller. -/
def RecvPc.Reporting : RecvPc → Prop
| .unlockState _ => True
| .notify _ => True
| _ => False

/- The request whose acknowledgement is slept for. -/
def CallerPc.waitsFor? : CallerPc → Option Request
| .wait r => some r
| _ => none

theorem CallerPc.waitsFor?_eq_some
    {pc : CallerPc}
    {r : Request} :
    pc.waitsFor? = some r ↔ pc = .wait r := by
  constructor
  · intro hWaits
    cases pc
    case wait r' =>
      cases hWaits
      rfl
    all_goals cases hWaits
  · rintro rfl
    rfl

namespace Sender

/- The caller sleeps, and its predicate is false. -/
def Sleeps (s : Sender) : Prop :=
  ∃ r ∈ s.callerPc.waitsFor?, ¬ r.Done s.state

instance (s : Sender) : Decidable s.Sleeps :=
  inferInstanceAs (Decidable (∃ _ ∈ _, _))

/- The sender has stopped, and the caller sleeps on. -/
def Orphaned (s : Sender) : Prop :=
  s.running = false ∧ s.sendPc = .exit ∧
    s.recvPc.Terminated ∧ s.Sleeps

instance (s : Sender) : Decidable s.Orphaned :=
  inferInstanceAs (Decidable (_ ∧ _ ∧ _ ∧ _))

/- The caller is about to sleep on a stopped sender. -/
def FallsAsleepStopped (s : Sender) : Prop :=
  match s.callerPc with
  | .check r => ¬ r.Done s.state ∧ s.running = false
  | _ => False

instance (s : Sender) :
    Decidable s.FallsAsleepStopped := by
  unfold FallsAsleepStopped
  generalize s.callerPc = pc
  rcases pc with ⟨⟩ <;> infer_instance

/-
  `send_handler` is about to clear `running_`: it reports used
  up retries in a state without a request.
-/
def GivesUp (s : Sender) : Prop :=
  match s.sendPc with
  | .exhausted _ =>
      s.state = .idle ∨ s.state = .connected ∨
        s.state = .sending
  | _ => False

instance (s : Sender) : Decidable s.GivesUp := by
  unfold GivesUp
  generalize s.sendPc = pc
  rcases pc with ⟨⟩ <;> infer_instance

/-
  The sender is not stopped under a sleeping caller, and no
  caller falls asleep on a stopped sender.
-/
def Attends (s : Sender) : Action → Prop
| .thread .caller => ¬ s.FallsAsleepStopped
| .thread .sendHandler => ¬ (s.Sleeps ∧ s.GivesUp)
| .recv result =>
    match result with
    | .error value =>
        ¬ (s.Sleeps ∧ isFatalError value = true)
    | .datagram _ _ => True
| _ => True

instance (s : Sender) (action : Action) :
    Decidable (s.Attends action) := by
  unfold Attends
  rcases action with _ | ⟨⟨⟩⟩ | _ | ⟨⟨⟩⟩ | _ | _ | _
  all_goals infer_instance

/-
  The invariant: a sleeping caller has a running sender, and
  a caller that sleeps past its predicate is about to be
  notified.
-/
structure Attended (s : Sender) : Prop where
  running : s.Sleeps → s.running = true
  notified :
    ∀ r, s.callerPc = .wait r → r.Done s.state →
      s.recvPc.Reporting

theorem attended_fresh
    (config : SenderConfig) :
    Attended (fresh config) := by
  constructor
  · rintro ⟨r, hWaits, _⟩
    cases hWaits
  · exact fun _ hPc => by cases hPc

end Sender

end Nkurdt

------------------------------------------------------------
-- Preservation
------------------------------------------------------------

namespace Nkurdt

namespace Sender

theorem not_sleeps_of_ne_wait
    {s : Sender}
    (hAwake : ∀ r, s.callerPc ≠ .wait r) :
    ¬ s.Sleeps := by
  rintro ⟨r, hWaits, _⟩
  exact hAwake r (CallerPc.waitsFor?_eq_some.mp hWaits)

/- An awake caller is attended. -/
theorem attended_of_awake
    {s : Sender}
    (hAwake : ∀ r, s.callerPc ≠ .wait r) :
    Attended s :=
  ⟨fun hSleeps => absurd hSleeps (not_sleeps_of_ne_wait hAwake),
    fun r hPc => absurd hPc (hAwake r)⟩

/-
  A step that may wake the caller, and that leaves the state
  and the report alone while it sleeps.
-/
theorem Attended.congr
    {s s' : Sender}
    (hAttended : Attended s)
    (hCaller :
      s'.callerPc = s.callerPc ∨
        s'.callerPc = wake s.callerPc)
    (hState : s'.state = s.state)
    (hRunning :
      s.Sleeps → s.running = true → s'.running = true)
    (hReporting :
      s.recvPc.Reporting →
        s'.recvPc.Reporting ∨
          s'.callerPc = wake s.callerPc) :
    Attended s' := by
  rcases hCaller with hSame | hWoken
  · constructor
    · intro hSleeps
      have hBefore : s.Sleeps := by
        unfold Sleeps at hSleeps ⊢
        rw [hSame, hState] at hSleeps
        exact hSleeps
      exact hRunning hBefore (hAttended.running hBefore)
    · intro r hPc hDone
      rw [hState] at hDone
      rcases hReporting
          (hAttended.notified r (hSame.symm.trans hPc)
            hDone) with
        hStill | hWoken
      · exact hStill
      · rw [hSame] at hPc
        rw [hSame, hPc] at hWoken
        cases hWoken
  · apply attended_of_awake
    intro r hPc
    rw [hWoken] at hPc
    cases hBefore : s.callerPc
    all_goals
      rw [hBefore] at hPc
      cases hPc

/- The caller falls asleep in one place. -/
theorem wait_callerStep
    {s s' : Sender}
    {r : Request}
    (hStep : s.callerStep = some s')
    (hPc' : s'.callerPc = .wait r) :
    s.callerPc = .check r ∧ ¬ r.Done s.state ∧
      s'.state = s.state ∧ s'.running = s.running := by
  cases callerStep_branch hStep with
  | waits hPc hNotDone =>
      cases hPc'
      exact ⟨hPc, hNotDone, rfl, rfl⟩
  | @abandons t | @unlocksPool t =>
      cases t <;> cases hPc'
  | _ => cases hPc'

theorem attended_callerStep
    {s s' : Sender}
    (hStep : s.callerStep = some s')
    (hAttends : ¬ s.FallsAsleepStopped) :
    Attended s' := by
  by_cases hWaits : ∃ r, s'.callerPc = .wait r
  · rcases hWaits with ⟨r, hPc'⟩
    obtain ⟨hPc, hNot, hState, hRunning⟩ :=
      wait_callerStep hStep hPc'
    have hRuns : s.running = true := by
      by_contra hStopped
      apply hAttends
      unfold FallsAsleepStopped
      rw [hPc]
      exact ⟨hNot, by simpa using hStopped⟩
    constructor
    · intro _
      rw [hRunning, hRuns]
    · intro r' hSame hDone
      rw [hPc'] at hSame
      cases hSame
      rw [hState] at hDone
      exact absurd hDone hNot
  · exact attended_of_awake
      (fun r hPc' => hWaits ⟨r, hPc'⟩)

/- A call that begins is awake. -/
theorem attended_callStep
    {s s' : Sender}
    {call : Call}
    (hStep : s.callStep call = some s') :
    Attended s' := by
  apply attended_of_awake
  intro r hPc'
  rcases (callStep_keeps hStep).starts with
    ⟨_, hStart⟩ | hStart
  all_goals
    rw [hStart] at hPc'
    cases hPc'

/-
  While the caller sleeps, `send_handler` changes neither the
  state nor, unless it gives up, `running_`.
-/
theorem sleeping_sendHandlerStep
    {s s' : Sender}
    (hStep : s.sendHandlerStep = some s') :
    s'.callerPc = wake s.callerPc ∨
      s'.callerPc = s.callerPc ∧ s'.state = s.state ∧
        (s'.running = s.running ∨ s.GivesUp) := by
  cases sendHandlerStep_branch hStep with
  | failsTransfer | failsConnection => exact Or.inl rfl
  | breaks hPc hState =>
      refine Or.inr ⟨rfl, rfl, Or.inr ?_⟩
      unfold GivesUp
      rw [hPc]
      exact hState
  | _ => exact Or.inr ⟨rfl, rfl, Or.inl rfl⟩

theorem attended_sendHandlerStep
    {s s' : Sender}
    (hAttended : Attended s)
    (hStep : s.sendHandlerStep = some s')
    (hAttends : ¬ (s.Sleeps ∧ s.GivesUp)) :
    Attended s' := by
  have hKeeps := sendHandlerStep_keeps hStep
  rcases sleeping_sendHandlerStep hStep with
    hWoken | ⟨hCaller, hState, hRunning⟩
  · apply attended_of_awake
    intro r hPc'
    rw [hWoken] at hPc'
    cases hPc : s.callerPc
    all_goals
      rw [hPc] at hPc'
      cases hPc'
  · refine hAttended.congr (Or.inl hCaller) hState ?_ ?_
    · intro hSleeps hRuns
      rcases hRunning with hSame | hGivesUp
      · rw [hSame, hRuns]
      · exact absurd ⟨hSleeps, hGivesUp⟩ hAttends
    · rw [hKeeps.recvPc]
      exact Or.inl

/- What `recv_handler` does to a sleeping caller. -/
theorem sleeping_recvHandlerStep
    {s s' : Sender}
    (hStep : s.recvHandlerStep = some s') :
    s'.running = s.running ∧
      (s'.callerPc = wake s.callerPc ∨
        s'.callerPc = s.callerPc ∧
          (¬ s.recvPc.Reporting ∧
              s'.recvPc.Reporting ∨
            s'.state = s.state ∧
              (s.recvPc.Reporting →
                s'.recvPc.Reporting))) := by
  cases recvHandlerStep_branch hStep with
  | notifies => exact ⟨rfl, Or.inl rfl⟩
  | setsState hPc =>
      rw [hPc]
      exact ⟨rfl, Or.inr ⟨rfl, Or.inl
        ⟨fun hReporting => hReporting, trivial⟩⟩⟩
  | unlocksState =>
      exact ⟨rfl, Or.inr ⟨rfl, Or.inr
        ⟨rfl, fun _ => trivial⟩⟩⟩
  | _ =>
      refine ⟨rfl, Or.inr ⟨rfl, Or.inr ⟨rfl, ?_⟩⟩⟩
      intro hReporting
      simp_all [RecvPc.Reporting]

theorem attended_recvHandlerStep
    {s s' : Sender}
    (hAttended : Attended s)
    (hStep : s.recvHandlerStep = some s') :
    Attended s' := by
  obtain ⟨hRunning, hCases⟩ := sleeping_recvHandlerStep hStep
  rcases hCases with
    hWoken | ⟨hCaller, ⟨hBefore, hAfter⟩ |
      ⟨hState, hReporting⟩⟩
  · apply attended_of_awake
    intro r hPc'
    rw [hWoken] at hPc'
    cases hPc : s.callerPc
    all_goals
      rw [hPc] at hPc'
      cases hPc'
  · -- a caller that still sleeps slept before the report
    constructor
    · rintro ⟨r, hWaits, _⟩
      have hPc := CallerPc.waitsFor?_eq_some.mp hWaits
      rw [hCaller] at hPc
      rw [hRunning]
      apply hAttended.running
      refine ⟨r, CallerPc.waitsFor?_eq_some.mpr hPc, ?_⟩
      exact fun hDone =>
        hBefore (hAttended.notified r hPc hDone)
    · exact fun _ _ _ => hAfter
  · refine hAttended.congr (Or.inl hCaller) hState ?_ ?_
    · rw [hRunning]
      exact fun _ hRuns => hRuns
    · exact fun hBefore => Or.inl (hReporting hBefore)

theorem attended_recvStep
    {s s' : Sender}
    {result : RecvResult}
    (hAttended : Attended s)
    (hStep : s.recvStep result = some s')
    (hAttends : s.Attends (.recv result)) :
    Attended s' := by
  have hKeeps := recvStep_keeps hStep
  refine hAttended.congr hKeeps.callerPc hKeeps.state ?_ ?_
  · intro hSleeps hRuns
    unfold recvStep at hStep
    rw [if_pos hKeeps.recvPc] at hStep
    cases result with
    | error value =>
        dsimp only at hStep
        split_ifs at hStep with hFatal
        · exact absurd ⟨hSleeps, hFatal⟩ hAttends
        · cases hStep
          exact hRuns
    | datagram bytes addr =>
        cases hStep
        exact hRuns
  · intro hReporting
    rw [hKeeps.recvPc] at hReporting
    exact hReporting.elim

theorem attended_step
    {s s' : Sender}
    {action : Action}
    (hAttended : Attended s)
    (hStep : s.step action = some s')
    (hAttends : s.Attends action) :
    Attended s' := by
  cases action with
  | call call => exact attended_callStep hStep
  | thread thread =>
      cases thread with
      | caller => exact attended_callerStep hStep hAttends
      | sendHandler =>
          exact attended_sendHandlerStep hAttended hStep
            hAttends
      | recvHandler =>
          exact attended_recvHandlerStep hAttended hStep
      | timeoutHandler =>
          have hKeeps := timeoutHandlerStep_keeps hStep
          refine hAttended.congr (Or.inl hKeeps.callerPc)
            hKeeps.state ?_ ?_
          · rw [hKeeps.running]
            exact fun _ hRuns => hRuns
          · rw [hKeeps.recvPc]
            exact Or.inl
  | timer =>
      obtain ⟨timer, _, rfl⟩ :=
        Option.map_eq_some_iff.mp hStep
      exact hAttended.congr (Or.inl rfl) rfl
        (fun _ hRuns => hRuns) Or.inl
  | recv result =>
      exact attended_recvStep hAttended hStep hAttends
  | tick duration =>
      cases hStep
      exact hAttended.congr (Or.inl rfl) rfl
        (fun _ hRuns => hRuns) Or.inl
  | wakeCaller =>
      cases hStep
      exact hAttended.congr (Or.inr rfl) rfl
        (fun _ hRuns => hRuns) Or.inl
  | wakeTimer =>
      cases hStep
      exact hAttended.congr (Or.inl rfl) rfl
        (fun _ hRuns => hRuns) Or.inl

end Sender

end Nkurdt

------------------------------------------------------------
-- Runs
------------------------------------------------------------

namespace Nkurdt

namespace Sender

open Runs

/-
  In a run that stops the sender under no sleeping caller and
  lets none fall asleep on a stopped sender, no caller is
  orphaned.
-/
theorem not_orphaned
    {config : SenderConfig}
    {s : Sender}
    (hReach :
      Reaches step (fun current action _ =>
        current.Attends action) (fresh config) s) :
    ¬ s.Orphaned := by
  have hAttended : Attended s :=
    hReach.invariant (attended_fresh config)
      (fun _ _ _ hCurrent hNext hAllowed =>
        attended_step hCurrent hNext hAllowed)
  rintro ⟨hStopped, _, _, hSleeps⟩
  have hRuns := hAttended.running hSleeps
  rw [hStopped] at hRuns
  cases hRuns

/- A call that sleeps while the sender runs. -/
theorem not_orphaned_connect :
    ∃ s,
      Reaches step (fun current action _ =>
        current.Attends action)
        (fresh ⟨1, 0, 1, false, false⟩) s ∧
      s.Sleeps ∧ ¬ s.Orphaned := by
  have hRun :
      ∃ s,
        Reaches step (fun current action _ =>
          current.Attends action)
          (fresh ⟨1, 0, 1, false, false⟩) s ∧
        s.Sleeps :=
    exists_reaches_of_runActions
      ([Action.call (.connect ⟨0, 1⟩)] ++ steps .caller 10 ++
        steps .sendHandler 13)
      (by decide +kernel)
  rcases hRun with ⟨s, hReach, hSleeps⟩
  exact ⟨s, hReach, hSleeps, not_orphaned hReach⟩

/-
  The retries of the connection request are found used up,
  and its acknowledgement arrives before `send_handler` has
  taken the state mutex. The connection succeeds, both
  handlers leave, and the disconnection is never woken.
-/
theorem exists_orphaned :
    ∃ s,
      Reaches step (fun _ _ _ => True)
        (fresh ⟨2, 0, 1, true, false⟩) s ∧
      (s.Orphaned ∧ s.recvPc = .exit ∧
        s.callerPc = .wait .disconnect) :=
  exists_reaches_of_runActions
    ([Action.call (.connect ⟨0, 1⟩)] ++ steps .caller 10 ++
      steps .sendHandler 13 ++
      [Action.tick 1000000, .timer, .timer, .timer, .timer] ++
      steps .timeoutHandler 8 ++ steps .sendHandler 9 ++
      steps .recvHandler 1 ++
      [Action.recv (.datagram
        (Packet.toBytes ⟨version, .connAck, 0, []⟩)
        ⟨0, 1⟩)] ++
      steps .recvHandler 6 ++ steps .caller 3 ++
      steps .sendHandler 5 ++ steps .recvHandler 6 ++
      [Action.call .disconnect] ++ steps .caller 10)
    (by decide +kernel)

end Sender

end Nkurdt
