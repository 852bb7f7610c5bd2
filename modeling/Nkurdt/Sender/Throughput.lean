import Nkurdt.Sender.Calls

/-
  The throughput of a transfer.

  Behind the wait for an empty window `send` divides by the
  whole milliseconds since the answer to `DataPush`. Nothing
  makes a transfer last that long: a short one over a fast
  link ends in a division by zero, before its `DataStop`.

  Main declarations:
    * `Timed`
    * `Timed.step`
    * `Timed.Lasts`
    * `Timed.Unhurried`
    * `Timed.reaches_stop`
-/

------------------------------------------------------------
-- Timed Runs
------------------------------------------------------------

namespace Nkurdt

/-
  A sender with the clock value at which its last `send` went
  past the wait for the answer to `DataPush`.
-/
structure Timed where
  sender : Sender
  began : Nat

namespace Timed

def fresh (config : SenderConfig) : Timed :=
  ⟨.fresh config, 0⟩

def beganAfter (p : Timed) : Sender.Action → Nat
| .thread .caller =>
    if p.sender.callerPc = .finish .push ∧
        p.sender.state ≠ .connected then
      p.sender.clock
    else
      p.began
| _ => p.began

/- A step of the sender, timed. -/
def step
    (p : Timed)
    (action : Sender.Action) : Option Timed :=
  (p.sender.step action).map fun sender =>
    ⟨sender, p.beganAfter action⟩

/- The transfer has taken a whole millisecond. -/
def Lasts (p : Timed) : Prop :=
  p.began + 1000000 ≤ p.sender.clock

instance (p : Timed) : Decidable p.Lasts :=
  inferInstanceAs (Decidable (_ ≤ _))

/-
  If the step is the one that computes the throughput, the
  transfer has taken a whole millisecond before it.
-/
def Unhurried
    (p : Timed)
    (action : Sender.Action)
    (_ : Timed) : Prop :=
  action = .thread .caller →
    p.sender.callerPc = .throughput →
    p.Lasts

end Timed

end Nkurdt

------------------------------------------------------------
-- The Start of a Transfer
------------------------------------------------------------

namespace Nkurdt

namespace Sender

/- The start is noted where the wait is left, only there. -/
theorem startTime_callerStep
    {s s' : Sender}
    (hStep : s.callerStep = some s') :
    s'.startTime =
      if s.callerPc = .finish .push ∧
          s.state ≠ .connected then
        s.clock
      else
        s.startTime := by
  cases callerStep_branch hStep with
  | opens hPc hState => exact (if_pos ⟨hPc, hState⟩).symm
  | fails hPc hFinish | succeeds hPc hFinish =>
      refine (if_neg ?_).symm
      rintro ⟨hPush, hState⟩
      rw [hPc] at hPush
      cases hPush
      unfold finishStep at hFinish
      rw [if_neg hState] at hFinish
      have hRead := congrArg callerPc hFinish
      cases hRead
  | _ =>
      refine (if_neg ?_).symm
      simp_all

theorem startTime_sendHandlerStep
    {s s' : Sender}
    (hStep : s.sendHandlerStep = some s') :
    s'.startTime = s.startTime := by
  cases sendHandlerStep_branch hStep
  all_goals rfl

theorem startTime_recvHandlerStep
    {s s' : Sender}
    (hStep : s.recvHandlerStep = some s') :
    s'.startTime = s.startTime := by
  cases recvHandlerStep_branch hStep
  all_goals rfl

/- No other thread notes it. -/
theorem startTime_of_other
    {s s' : Sender}
    {action : Action}
    (hStep : s.step action = some s')
    (hOther : action ≠ .thread .caller) :
    s'.startTime = s.startTime := by
  cases action with
  | call call => exact (callStep_keeps hStep).startTime
  | thread thread =>
      cases thread with
      | caller => exact absurd rfl hOther
      | sendHandler => exact startTime_sendHandlerStep hStep
      | recvHandler => exact startTime_recvHandlerStep hStep
      | timeoutHandler =>
          cases timeoutHandlerStep_branch hStep
          all_goals rfl
  | timer =>
      rcases Option.map_eq_some_iff.mp hStep with
        ⟨timer, _, rfl⟩
      rfl
  | recv result =>
      change s.recvStep result = some s' at hStep
      unfold recvStep at hStep
      split_ifs at hStep
      cases result
      all_goals dsimp only at hStep
      all_goals try split_ifs at hStep
      all_goals
        rw [← Option.some.inj hStep]
  | tick duration =>
      rw [← Option.some.inj hStep]
  | wakeCaller =>
      rw [← Option.some.inj hStep]
      rfl
  | wakeTimer =>
      rw [← Option.some.inj hStep]

/- Nothing follows a fault. -/
theorem phase_ne_undefined_of_callerStep
    {s s' : Sender}
    (hStep : s.callerStep = some s') :
    s.callerPc.phase ≠ .undefined := by
  unfold callerStep at hStep
  cases hPc : s.callerPc
  case undefined =>
    rw [hPc] at hStep
    cases hStep
  case waitWindow t | testRunning t | upperBound t |
      unlockPool t =>
    cases t <;> exact fun hPhase => by cases hPhase
  case updateUpper t seq | lockPool t seq | emplace t seq |
      push t seq =>
    cases t <;> exact fun hPhase => by cases hPhase
  all_goals exact fun hPhase => by cases hPhase

/- The division is the only fault of a call. -/
theorem drained_of_undefined
    {s s' : Sender}
    (hStep : s.callerStep = some s')
    (hAfter : s'.callerPc.phase = .undefined) :
    s.callerPc.phase = .drained := by
  have hBefore := phase_ne_undefined_of_callerStep hStep
  cases callerMove_callerStep hStep with
  | divides hDrained => exact hDrained
  | stays hPhase =>
      exact absurd (hPhase.symm.trans hAfter) hBefore
  | builds t seq _ hNext =>
      rw [hNext] at hAfter
      cases t <;> cases hAfter
  | abandons t _ hNext =>
      rw [hNext] at hAfter
      cases t <;> cases hAfter
  | enters _ _ hNext | finishes _ _ hNext
  | returns _ _ hNext =>
      rw [hNext] at hAfter
      cases hAfter
  | skips _ hNext | opens _ hNext | reads _ hNext
  | ends _ hNext | drains _ hNext | cancels _ hNext
  | stops _ hNext | quits _ hNext =>
      rw [hNext] at hAfter
      cases hAfter

/- The remainder of a millisecond is lost. -/
theorem callerPc_throughputStep_eq
    (s : Sender) :
    s.throughputStep.callerPc =
      if s.startTime + 1000000 ≤ s.clock then
        .lockState .stop
      else
        .undefined := by
  unfold throughputStep
  by_cases hLasts : s.startTime + 1000000 ≤ s.clock
  · rw [if_pos hLasts, if_neg (by omega)]
  · rw [if_neg hLasts, if_pos (by omega)]

theorem callerPc_of_drained
    {pc : CallerPc}
    (hPhase : pc.phase = .drained) :
    pc = .throughput := by
  cases pc
  case throughput => rfl
  case waitWindow t | testRunning t | upperBound t |
      unlockPool t =>
    cases t <;> cases hPhase
  case updateUpper t seq | lockPool t seq | emplace t seq |
      push t seq =>
    cases t <;> cases hPhase
  all_goals cases hPhase

end Sender

end Nkurdt

------------------------------------------------------------
-- Transfers That Last
------------------------------------------------------------

namespace Nkurdt

namespace Timed

open Runs
open Sender

/- The start that `send` has noted is the real one. -/
def Noted (p : Timed) : Prop :=
  p.sender.startTime = p.began

theorem noted_step
    {p p' : Timed}
    {action : Sender.Action}
    (hNoted : p.Noted)
    (hStep : p.step action = some p') :
    p'.Noted := by
  rcases Option.map_eq_some_iff.mp hStep with
    ⟨s', hSender, rfl⟩
  unfold Noted at hNoted ⊢
  dsimp only
  by_cases hCaller : action = .thread .caller
  · subst hCaller
    rw [startTime_callerStep hSender, hNoted]
    rfl
  · rw [startTime_of_other hSender hCaller, hNoted]
    cases action
    case thread thread =>
      cases thread
      case caller => exact absurd rfl hCaller
      all_goals rfl
    all_goals rfl

theorem noted_of_reaches
    {config : SenderConfig}
    {allowed : Timed → Sender.Action → Timed → Prop}
    {p : Timed}
    (hReaches : Reaches step allowed (fresh config) p) :
    p.Noted :=
  hReaches.invariant (rfl : Noted (fresh config))
    (fun _ _ _ hNoted hStep _ => noted_step hNoted hStep)

/- What the computation of the throughput leads to. -/
theorem callerPc_throughput
    {p : Timed}
    (hNoted : p.Noted)
    (hPc : p.sender.callerPc = .throughput) :
    (p.step (.thread .caller)).map
        (fun p' => p'.sender.callerPc) =
      some
        (if p.Lasts then
          .lockState .stop
        else
          .undefined) := by
  have hCaller :
      p.sender.step (.thread .caller) =
        some p.sender.throughputStep := by
    change p.sender.callerStep = _
    unfold callerStep
    rw [hPc]
  have hNext := callerPc_throughputStep_eq p.sender
  unfold Noted at hNoted
  rw [hNoted] at hNext
  unfold step
  rw [hCaller]
  by_cases hLasts : p.Lasts
  · rw [if_pos hLasts]
    exact congrArg some (hNext.trans (if_pos hLasts))
  · rw [if_neg hLasts]
    exact congrArg some (hNext.trans (if_neg hLasts))

/- No division has faulted so far. -/
def Sound (p : Timed) : Prop :=
  p.sender.callerPc.phase ≠ .undefined

theorem sound_step
    {p p' : Timed}
    {action : Sender.Action}
    (hNoted : p.Noted)
    (hSound : p.Sound)
    (hStep : p.step action = some p')
    (hAllowed : Unhurried p action p') :
    p'.Sound := by
  unfold Sound
  have hMap := hStep
  rcases Option.map_eq_some_iff.mp hStep with
    ⟨s', hSender, rfl⟩
  by_cases hCaller : action = .thread .caller
  · subst hCaller
    intro hAfter
    have hPc :=
      callerPc_of_drained
        (drained_of_undefined hSender hAfter)
    have hNext := callerPc_throughput hNoted hPc
    rw [if_pos (hAllowed rfl hPc), hMap] at hNext
    have hStop := Option.some.inj hNext
    dsimp only at hStop hAfter
    rw [hStop] at hAfter
    cases hAfter
  · by_cases hCall : ∃ call, action = .call call
    · obtain ⟨call, rfl⟩ := hCall
      rw [(callBegins_callStep hSender).phase]
      cases call <;> exact fun hPhase => by cases hPhase
    · have hKept :=
        callKept_step hSender
          (fun call hAction => hCall ⟨call, hAction⟩) hCaller
      rw [phase_of_wake hKept.callerPc]
      exact hSound

/- An acknowledgement and what `recv_handler` does. -/
def takes (kind : PacketKind) (seq : Nat) :
    List Sender.Action :=
  steps .sendHandler 13 ++ steps .recvHandler 1 ++
    [.recv (.datagram
      (Packet.toBytes ⟨version, kind, seq, []⟩) ⟨0, 1⟩)] ++
    steps .recvHandler 13

/- An empty stream, up to the wait of its `DataPush`. -/
def emptySend : List Sender.Action :=
  [.call (.connect ⟨0, 1⟩)] ++ steps .caller 10 ++
    takes .connAck 1 ++ steps .caller 3 ++
    [.call (.send .eof)] ++ steps .caller 10 ++
    takes .dataPushAck 2 ++ steps .caller 3

/-
  In every run whose transfers all last for a millisecond the
  division never faults. In any run at all, the throughput is
  followed by the `DataStop` exactly if the transfer lasted.
-/
theorem reaches_stop
    (config : SenderConfig) :
    (∀ p,
      Reaches step Unhurried (fresh config) p →
      p.sender.callerPc ≠ .undefined) ∧
    (∀ p,
      Reaches step (fun _ _ _ => True) (fresh config) p →
      p.sender.callerPc = .throughput →
      ((p.step (.thread .caller)).map
          (fun p' => p'.sender.callerPc) =
        some (.lockState .stop) ↔ p.Lasts)) := by
  refine ⟨?_, ?_⟩
  · intro p hReaches hPc
    have hFresh : (fresh config).Sound :=
      fun hPhase => by cases hPhase
    have hSound : p.Sound :=
      hReaches.invariant_of_known
        (fun _ hReached => noted_of_reaches hReached)
        hFresh
        (fun _ _ _ hNoted _ hSound hStep hAllowed =>
          sound_step hNoted hSound hStep hAllowed)
    exact hSound (congrArg CallerPc.phase hPc)
  · intro p hReaches hPc
    rw [callerPc_throughput (noted_of_reaches hReaches) hPc]
    by_cases hLasts : p.Lasts
    · rw [if_pos hLasts]
      exact ⟨fun _ => hLasts, fun _ => rfl⟩
    · rw [if_neg hLasts]
      exact ⟨(fun hStop => by cases hStop),
        (fun hNow => absurd hNow hLasts)⟩

/- A millisecond passes before an empty stream is sent. -/
theorem reaches_stop_millisecond :
    ∃ p,
      Reaches step (fun _ _ _ => True)
        (fresh ⟨1, 0, 1, false, false⟩) p ∧
      (p.step (.thread .caller)).map
          (fun p' => p'.sender.callerPc) =
        some (.lockState .stop) := by
  have hRun :
      ∃ p,
        Reaches step (fun _ _ _ => True)
          (fresh ⟨1, 0, 1, false, false⟩) p ∧
        (p.sender.callerPc = .throughput ∧ p.Lasts) :=
    exists_reaches_of_runActions
      (emptySend ++ [.tick 1000000] ++ steps .caller 2)
      (by decide +kernel)
  obtain ⟨p, hReaches, hPc, hLasts⟩ := hRun
  have hStop := (reaches_stop ⟨1, 0, 1, false, false⟩).2
  exact ⟨p, hReaches, (hStop p hReaches hPc).mpr hLasts⟩

/-
  The link answers within the same millisecond: `send`
  divides by zero.
-/
theorem exists_undefined :
    ∃ p,
      Reaches step (fun _ _ _ => True)
        (fresh ⟨1, 0, 1, false, false⟩) p ∧
      p.sender.callerPc = .undefined :=
  exists_reaches_of_runActions
    (emptySend ++ steps .caller 3)
    (by decide +kernel)

end Timed

end Nkurdt
