import Nkurdt.Sender.Retry

/-
  A call and its phases.

  Most steps of the caller only bring it closer to the next
  thing it does. `Phase` is what a call is about to do, and
  `CallerMove` says once what a step of the caller can do to
  the phase and to the data of the call. As long as no
  retries are used up, nobody but an acknowledgement ends a
  wait, and it ends it in the state that it stands for.

  Main declarations:
    * `Phase`
    * `Sender.CallerMove`
    * `Sender.callerMove_callerStep`
    * `Sender.Answering`
    * `Sender.answering_step`
-/

------------------------------------------------------------
-- Phases
------------------------------------------------------------

namespace Nkurdt

/-
  What the thread that makes the calls is about to do: enter
  a call, build a packet, wait for an acknowledgement, leave
  the wait, read the stream, or wait for an empty window.
-/
inductive Phase where
| resting
| calling (r : Request)
| building (r : Request)
| waiting (r : Request)
| answered (r : Request)
| reading
| chunk (payload : List UInt8)
| draining
| drained
| undefined
| stopping
deriving DecidableEq

namespace Transfer

/- The phase of `send_packet` up to the new packet. -/
def before : Transfer → Phase
| .request r => .building r
| .data payload => .chunk payload

/- And behind it. -/
def behind : Transfer → Phase
| .request r => .waiting r
| .data _ => .reading

end Transfer

def CallerPc.phase : CallerPc → Phase
| .idle => .resting
| .lockState r => .calling r
| .enter r => .calling r
| .waitWindow t => t.before
| .testRunning t => t.before
| .upperBound t => t.before
| .updateUpper t _ => t.before
| .lockPool t _ => t.behind
| .emplace t _ => t.behind
| .push t _ => t.behind
| .unlockPool t => t.behind
| .check r => .waiting r
| .wait r => .waiting r
| .relock r => .waiting r
| .finish r => .answered r
| .read => .reading
| .waitZero => .draining
| .zeroRunning => .draining
| .throughput => .drained
| .undefined => .undefined
| .stopRunning => .stopping
| .stopTimer => .stopping
| .notifyTimer => .stopping
| .joinTimer => .stopping
| .joinSend => .stopping
| .joinRecv => .stopping
| .joinTimeout => .stopping

@[simp] theorem Transfer.phase_after
    (t : Transfer) :
    t.after.phase = t.behind := by
  cases t <;> rfl

/- Being notified does not change the phase. -/
theorem phase_of_wake
    {pc pc' : CallerPc}
    (hCaller : pc' = pc ∨ pc' = Sender.wake pc) :
    pc'.phase = pc.phase := by
  rcases hCaller with rfl | rfl
  · rfl
  · cases pc <;> rfl

/- A request is sent from its construction to its answer. -/
theorem CallerPc.sent?_eq_some
    {pc : CallerPc}
    {r : Request} :
    pc.sent? = some r ↔
      pc.phase = .building r ∨ pc.phase = .waiting r := by
  cases pc
  case waitWindow t | testRunning t | upperBound t =>
    cases t <;>
      simp [sent?, phase, Transfer.request?, Transfer.before]
  case updateUpper t seq =>
    cases t <;>
      simp [sent?, phase, Transfer.request?, Transfer.before]
  case lockPool t seq | emplace t seq | push t seq =>
    cases t <;>
      simp [sent?, phase, Transfer.request?, Transfer.behind]
  case unlockPool t =>
    cases t <;>
      simp [sent?, phase, Transfer.request?, Transfer.behind]
  all_goals simp [sent?, phase]

theorem CallerPc.sent?_of_calling
    {pc : CallerPc}
    {r : Request}
    (hPhase : pc.phase = .calling r) :
    pc.sent? = none := by
  cases hSent : pc.sent? with
  | none => rfl
  | some r' =>
      rcases sent?_eq_some.mp hSent with hNow | hNow
      all_goals
        rw [hPhase] at hNow
        cases hNow

/- The state that the acknowledgement stands for. -/
def Request.answered : Request → SenderState
| .connect => .connected
| .push => .sending
| .stop => .connected
| .disconnect => .idle

theorem Request.answered_ne_waiting
    (r r' : Request) :
    r.answered ≠ r'.waiting := by
  cases r <;> cases r' <;> decide

end Nkurdt

------------------------------------------------------------
-- Steps of the Caller
------------------------------------------------------------

namespace Nkurdt

namespace Sender

/- What most steps of the caller leave alone. -/
structure CallSame (s s' : Sender) : Prop where
  state : s'.state = s.state
  upperBound : s'.window.upperBound = s.window.upperBound
  packets : s'.history.packets = s.history.packets
  request : s'.history.request = s.history.request
  stream : s'.stream = s.stream

/-
  What a step of the caller can do. Only `builds` builds a
  packet and only `enters` sets the state. `abandons` and
  `cancels` belong to a sender that has been stopped.
-/
inductive CallerMove (s s' : Sender) : Prop
| stays
    (hPhase : s'.callerPc.phase = s.callerPc.phase)
    (hSame : CallSame s s')
| enters
    (r : Request)
    (hBefore : s.callerPc.phase = .calling r)
    (hAfter : s'.callerPc.phase = .building r)
    (hState : s'.state = r.waiting)
    (hUpper : s'.window.upperBound = s.window.upperBound)
    (hPackets : s'.history.packets = s.history.packets)
    (hRequest : s'.history.request = none)
    (hStream : s'.stream = s.stream)
| skips
    (hBefore : s.callerPc.phase = .calling .disconnect)
    (hAfter : s'.callerPc.phase = .answered .disconnect)
    (hIdle : s.state = .idle)
    (hSame : CallSame s s')
| builds
    (t : Transfer)
    (seq : Nat)
    (hBefore : s.callerPc = .updateUpper t seq)
    (hAfter : s'.callerPc = .lockPool t seq)
    (hState : s'.state = s.state)
    (hUpper :
      s'.window.upperBound =
        SequenceNumber.update s.window.upperBound)
    (hPackets :
      s'.history.packets =
        s.history.packets ++ [t.packet seq])
    (hRequest :
      s'.history.request =
        match t with
        | .request _ => some seq
        | .data _ => s.history.request)
    (hStream : s'.stream = s.stream)
| abandons
    (t : Transfer)
    (hBefore : s.callerPc.phase = t.before)
    (hAfter : s'.callerPc.phase = t.behind)
    (hStopped : s.running = false)
    (hSame : CallSame s s')
| finishes
    (r : Request)
    (hBefore : s.callerPc.phase = .waiting r)
    (hAfter : s'.callerPc.phase = .answered r)
    (hDone : r.Done s.state)
    (hSame : CallSame s s')
| returns
    (r : Request)
    (hBefore : s.callerPc.phase = .answered r)
    (hAfter : s'.callerPc.phase = .resting)
    (hFailed : r = .push → s.state = .connected)
    (hSame : CallSame s s')
| opens
    (hBefore : s.callerPc.phase = .answered .push)
    (hAfter : s'.callerPc.phase = .reading)
    (hSame : CallSame s s')
| reads
    (hBefore : s.callerPc.phase = .reading)
    (hAfter :
      s'.callerPc.phase =
        .chunk (s.stream.read maxPayloadSize).1)
    (hState : s'.state = s.state)
    (hUpper : s'.window.upperBound = s.window.upperBound)
    (hPackets : s'.history.packets = s.history.packets)
    (hRequest : s'.history.request = s.history.request)
    (hStream :
      s'.stream = (s.stream.read maxPayloadSize).2)
| ends
    (hBefore : s.callerPc.phase = .reading)
    (hAfter : s'.callerPc.phase = .draining)
    (hFailed : s.stream.good = false)
    (hSame : CallSame s s')
| drains
    (hBefore : s.callerPc.phase = .draining)
    (hAfter : s'.callerPc.phase = .drained)
    (hZero : s.window.Zero)
    (hSame : CallSame s s')
| cancels
    (hBefore : s.callerPc.phase = .draining)
    (hAfter : s'.callerPc.phase = .resting)
    (hStopped : s.running = false)
    (hSame : CallSame s s')
| stops
    (hBefore : s.callerPc.phase = .drained)
    (hAfter : s'.callerPc.phase = .calling .stop)
    (hSame : CallSame s s')
| divides
    (hBefore : s.callerPc.phase = .drained)
    (hAfter : s'.callerPc.phase = .undefined)
    (hSame : CallSame s s')
| quits
    (hBefore : s.callerPc.phase = .stopping)
    (hAfter : s'.callerPc.phase = .resting)
    (hSame : CallSame s s')

theorem callerMove_finishStep
    {s : Sender}
    {r : Request}
    (hPc : s.callerPc = .finish r) :
    CallerMove s (s.finishStep r) := by
  have hBefore : s.callerPc.phase = .answered r := by
    rw [hPc]
    rfl
  cases r with
  | connect =>
      unfold finishStep
      dsimp only
      split_ifs
      all_goals
        exact .returns .connect hBefore rfl
          (fun hPush => by cases hPush)
          ⟨rfl, rfl, rfl, rfl, rfl⟩
  | push =>
      unfold finishStep
      dsimp only
      split_ifs with hState
      · exact .returns .push hBefore rfl (fun _ => hState)
          ⟨rfl, rfl, rfl, rfl, rfl⟩
      · exact .opens hBefore rfl ⟨rfl, rfl, rfl, rfl, rfl⟩
  | stop =>
      exact .returns .stop hBefore rfl
        (fun hPush => by cases hPush)
        ⟨rfl, rfl, rfl, rfl, rfl⟩
  | disconnect =>
      exact .returns .disconnect hBefore rfl
        (fun hPush => by cases hPush)
        ⟨rfl, rfl, rfl, rfl, rfl⟩

/- Every step of the caller is one of these. -/
theorem callerMove_callerStep
    {s s' : Sender}
    (hStep : s.callerStep = some s') :
    CallerMove s s' := by
  cases callerStep_branch hStep with
  | skips hPc hIdle =>
      rw [hIdle.1] at hPc
      exact .skips (by rw [hPc]; rfl)
        (by rw [hIdle.1]; rfl) hIdle.2
        ⟨rfl, rfl, rfl, rfl, rfl⟩
  | @enters r hPc =>
      exact .enters r (by rw [hPc]; rfl) rfl rfl rfl rfl rfl
        rfl
  | @abandons t hPc hStopped =>
      exact .abandons t (by rw [hPc]; rfl) t.phase_after
        hStopped ⟨rfl, rfl, rfl, rfl, rfl⟩
  | @updatesUpper t seq request hPc _ hRequest hData =>
      refine .builds t seq hPc rfl rfl rfl rfl ?_ rfl
      cases t with
      | request r => exact hRequest r rfl
      | data payload => exact hData payload rfl
  | @unlocksPool t hPc =>
      refine .stays ?_ ⟨rfl, rfl, rfl, rfl, rfl⟩
      rw [hPc]
      exact t.phase_after
  | @findsDone r hPc hDone =>
      exact .finishes r (by rw [hPc]; rfl) rfl hDone
        ⟨rfl, rfl, rfl, rfl, rfl⟩
  | fails hPc hFinish | succeeds hPc hFinish =>
      rw [← hFinish]
      exact callerMove_finishStep hPc
  | opens hPc hState =>
      exact .opens (by rw [hPc]; rfl) rfl
        ⟨rfl, rfl, rfl, rfl, rfl⟩
  | reads hPc =>
      exact .reads (by rw [hPc]; rfl) rfl rfl rfl rfl rfl rfl
  | endsReading hPc hEnd =>
      exact .ends (by rw [hPc]; rfl) rfl
        (Bool.eq_false_iff.mpr hEnd)
        ⟨rfl, rfl, rfl, rfl, rfl⟩
  | drains hPc _ hZero =>
      exact .drains (by rw [hPc]; rfl) rfl hZero
        ⟨rfl, rfl, rfl, rfl, rfl⟩
  | cancels hPc hStopped =>
      exact .cancels (by rw [hPc]; rfl) rfl hStopped
        ⟨rfl, rfl, rfl, rfl, rfl⟩
  | faults hPc =>
      exact .divides (by rw [hPc]; rfl) rfl
        ⟨rfl, rfl, rfl, rfl, rfl⟩
  | divides hPc =>
      exact .stops (by rw [hPc]; rfl) rfl
        ⟨rfl, rfl, rfl, rfl, rfl⟩
  | stops hPc =>
      exact .quits (by rw [hPc]; rfl) rfl
        ⟨rfl, rfl, rfl, rfl, rfl⟩
  | _ =>
      refine .stays ?_ ⟨rfl, rfl, rfl, rfl, rfl⟩
      simp_all [CallerPc.phase]

end Sender

end Nkurdt

------------------------------------------------------------
-- Calls That Begin
------------------------------------------------------------

namespace Nkurdt

namespace Call

/- The phase in which the call begins. -/
def phase : Call → Phase
| .connect _ => .calling .connect
| .send _ => .calling .push
| .disconnect => .calling .disconnect
| .stop => .stopping

/- The stream that the call reads, if it reads one. -/
def stream? : Call → Option IStream
| .send is => some is
| _ => none

end Call

namespace Sender

structure CallBegins
    (s : Sender)
    (call : Call)
    (s' : Sender) : Prop where
  resting : s.callerPc = .idle
  phase : s'.callerPc.phase = call.phase
  state : s'.state = s.state
  upperBound : s'.window.upperBound = s.window.upperBound
  packets : s'.history.packets = s.history.packets
  request : s'.history.request = s.history.request
  calls : s'.history.calls = s.history.calls ++ [call]
  callFirst :
    s'.history.callFirst = s.history.packets.length
  stream : s'.stream = call.stream?.getD s.stream

theorem callBegins_callStep
    {s s' : Sender}
    {call : Call}
    (hStep : s.callStep call = some s') :
    CallBegins s call s' := by
  unfold callStep at hStep
  split_ifs at hStep with hIdle
  cases call
  all_goals
    rw [← Option.some.inj hStep]
    exact ⟨hIdle, rfl, rfl, rfl, rfl, rfl, rfl, rfl, rfl⟩

end Sender

end Nkurdt

------------------------------------------------------------
-- Waits That Only an Acknowledgement Ends
------------------------------------------------------------

namespace Nkurdt

namespace Sender

/- The switch on the state answers the request it is in. -/
theorem answers_of_ackTarget
    {state target : SenderState}
    {kind : PacketKind}
    (hTarget : ackTarget state kind = some target) :
    ∃ r : Request,
      state = r.waiting ∧ target = r.answered := by
  unfold ackTarget at hTarget
  split at hTarget
  all_goals cases hTarget
  · exact ⟨.connect, rfl, rfl⟩
  · exact ⟨.push, rfl, rfl⟩
  · exact ⟨.stop, rfl, rfl⟩
  · exact ⟨.disconnect, rfl, rfl⟩

/-
  What holds while no retries are used up: the state that
  `recv_handler` is about to set answers the request that is
  waited for, and a wait is left in the answered state.
-/
structure Answering (s : Sender) : Prop where
  tracked : CallTracked s
  sending : ¬ s.sendPc.Exhausting
  target :
    ∀ target, s.recvPc.target? = some target →
      ∃ r : Request,
        s.state = r.waiting ∧ target = r.answered
  waiting :
    ∀ r,
      s.callerPc.phase = .building r ∨
          s.callerPc.phase = .waiting r →
        s.state = r.waiting ∨ s.state = r.answered
  answered :
    ∀ r, s.callerPc.phase = .answered r →
      s.state = r.answered

theorem answering_fresh
    (config : SenderConfig) :
    Answering (fresh config) := by
  refine ⟨callTracked_fresh config, fun h => h, ?_, ?_, ?_⟩
  · exact fun _ hTarget => by cases hTarget
  · intro r hPhase
    rcases hPhase with hBuilding | hWaiting
    · cases hBuilding
    · cases hWaiting
  · exact fun _ hPhase => by cases hPhase

/- A `send` goes on once its first request is answered. -/
theorem Answering.ne_push
    {s : Sender}
    {r : Request}
    (hAnswering : Answering s)
    (hPhase : s.callerPc.phase = .answered r)
    (hFailed : r = .push → s.state = .connected) :
    r ≠ .push := by
  intro hPush
  have hConnected := hFailed hPush
  rw [hAnswering.answered .push (hPush ▸ hPhase)]
    at hConnected
  cases hConnected

/- Nothing is about to be set unless a request is sent. -/
theorem Answering.target_eq_none
    {s : Sender}
    (hAnswering : Answering s)
    (hSent : s.callerPc.sent? = none) :
    s.recvPc.target? = none := by
  cases hTarget : s.recvPc.target? with
  | none => rfl
  | some target =>
      rcases hAnswering.target target hTarget with
        ⟨r, hState, _⟩
      have hWaits := hAnswering.tracked.waiting r hState
      rw [hSent] at hWaits
      cases hWaits

/- A wait that is over has been answered. -/
theorem Answering.state_of_done
    {s : Sender}
    {r : Request}
    (hAnswering : Answering s)
    (hPhase : s.callerPc.phase = .waiting r)
    (hDone : r.Done s.state) :
    s.state = r.answered := by
  apply (hAnswering.waiting r (Or.inr hPhase)).resolve_left
  intro hWaiting
  rw [hWaiting] at hDone
  exact r.not_done_waiting hDone

/- A step that changes neither the state nor the phase. -/
theorem Answering.congr
    {s s' : Sender}
    (hAnswering : Answering s)
    (hTracked : CallTracked s')
    (hSend : ¬ s'.sendPc.Exhausting)
    (hTarget :
      ∀ target, s'.recvPc.target? = some target →
        s.recvPc.target? = some target)
    (hState : s'.state = s.state)
    (hPhase : s'.callerPc.phase = s.callerPc.phase) :
    Answering s' := by
  refine ⟨hTracked, hSend, ?_, ?_, ?_⟩
  · intro target hNext
    rw [hState]
    exact hAnswering.target target (hTarget target hNext)
  · rw [hState, hPhase]
    exact hAnswering.waiting
  · rw [hState, hPhase]
    exact hAnswering.answered

end Sender

end Nkurdt

------------------------------------------------------------
-- Preservation
------------------------------------------------------------

namespace Nkurdt

namespace Sender

theorem answering_callerStep
    {s s' : Sender}
    (hAnswering : Answering s)
    (hStep : s.callerStep = some s') :
    Answering s' := by
  have hKeeps := callerStep_keeps hStep
  have hTracked :=
    callTracked_callerStep hAnswering.tracked hStep
  have hSend : ¬ s'.sendPc.Exhausting := by
    rw [hKeeps.sendPc]
    exact hAnswering.sending
  have hTarget :
      s'.state = s.state →
        ∀ target, s'.recvPc.target? = some target →
          ∃ r : Request,
            s'.state = r.waiting ∧ target = r.answered := by
    intro hState
    rw [hState, hKeeps.recvPc]
    exact hAnswering.target
  -- A phase that is neither sent nor left demands nothing.
  have hFree :
      s'.state = s.state →
      (∀ r, s'.callerPc.phase ≠ .building r) →
      (∀ r, s'.callerPc.phase ≠ .waiting r) →
      (∀ r, s'.callerPc.phase ≠ .answered r) →
        Answering s' := by
    intro hState hBuilding hWaiting hAnswered
    refine ⟨hTracked, hSend, hTarget hState, ?_, ?_⟩
    · intro r hPhase
      rcases hPhase with hNow | hNow
      · exact absurd hNow (hBuilding r)
      · exact absurd hNow (hWaiting r)
    · exact fun r hNow => absurd hNow (hAnswered r)
  have hBuilt :
      ∀ t : Transfer,
        s.callerPc.phase = t.before →
        s'.callerPc.phase = t.behind →
        s'.state = s.state →
          Answering s' := by
    intro t hBefore hAfter hState
    cases t with
    | request r =>
        refine ⟨hTracked, hSend, hTarget hState, ?_, ?_⟩
        · intro r' hPhase
          rw [hAfter] at hPhase
          rcases hPhase with hNow | hNow
          · cases hNow
          · cases hNow
            rw [hState]
            exact hAnswering.waiting r (Or.inl hBefore)
        · intro r' hPhase
          rw [hAfter] at hPhase
          cases hPhase
    | data payload =>
        apply hFree hState
        all_goals
          intro r hPhase
          rw [hAfter] at hPhase
          cases hPhase
  cases callerMove_callerStep hStep with
  | stays hPhase hSame =>
      apply hAnswering.congr hTracked hSend ?_ hSame.state
        hPhase
      rw [hKeeps.recvPc]
      exact fun _ hOld => hOld
  | enters r hBefore hAfter hState =>
      have hNone : s.recvPc.target? = none :=
        hAnswering.target_eq_none
          (CallerPc.sent?_of_calling hBefore)
      refine ⟨hTracked, hSend, ?_, ?_, ?_⟩
      · intro target hNext
        rw [hKeeps.recvPc, hNone] at hNext
        cases hNext
      · intro r' hPhase
        rw [hAfter] at hPhase
        rcases hPhase with hNow | hNow
        · cases hNow
          exact Or.inl hState
        · cases hNow
      · intro r' hPhase
        rw [hAfter] at hPhase
        cases hPhase
  | skips hBefore hAfter hIdle hSame =>
      refine ⟨hTracked, hSend, hTarget hSame.state, ?_, ?_⟩
      · intro r hPhase
        rw [hAfter] at hPhase
        rcases hPhase with hNow | hNow
        · cases hNow
        · cases hNow
      · intro r hPhase
        rw [hAfter] at hPhase
        cases hPhase
        exact hSame.state.trans hIdle
  | builds t seq hBefore hAfter hState =>
      apply hBuilt t (by rw [hBefore]; rfl)
        (by rw [hAfter]; rfl) hState
  | abandons t hBefore hAfter _ hSame =>
      exact hBuilt t hBefore hAfter hSame.state
  | finishes r hBefore hAfter hDone hSame =>
      refine ⟨hTracked, hSend, hTarget hSame.state, ?_, ?_⟩
      · intro r' hPhase
        rw [hAfter] at hPhase
        rcases hPhase with hNow | hNow
        · cases hNow
        · cases hNow
      · intro r' hPhase
        rw [hAfter] at hPhase
        cases hPhase
        rw [hSame.state]
        exact hAnswering.state_of_done hBefore hDone
  | returns _ _ hAfter _ hSame
  | opens _ hAfter hSame
  | ends _ hAfter _ hSame
  | drains _ hAfter _ hSame
  | cancels _ hAfter _ hSame
  | stops _ hAfter hSame
  | divides _ hAfter hSame
  | quits _ hAfter hSame =>
      apply hFree hSame.state
      all_goals
        intro r hPhase
        rw [hAfter] at hPhase
        cases hPhase
  | reads _ hAfter hState =>
      apply hFree hState
      all_goals
        intro r hPhase
        rw [hAfter] at hPhase
        cases hPhase

/- An acknowledgement ends the wait for its request. -/
theorem answering_recvHandlerStep
    {s s' : Sender}
    (hAnswering : Answering s)
    (hStep : s.recvHandlerStep = some s') :
    Answering s' := by
  have hKeeps := recvHandlerStep_keeps hStep
  have hTracked :=
    callTracked_recvHandlerStep hAnswering.tracked hStep
  have hPhase := phase_of_wake hKeeps.callerPc
  have hSend : ¬ s'.sendPc.Exhausting := by
    rw [hKeeps.sendPc]
    exact hAnswering.sending
  by_cases hSet :
      ∃ target packet, s.recvPc = .setState target packet
  · rcases hSet with ⟨target, packet, hPc⟩
    rcases hAnswering.target target (by rw [hPc]; rfl) with
      ⟨r, hState, hAnswer⟩
    unfold recvHandlerStep at hStep
    simp only [hPc, Option.some.injEq] at hStep
    subst hStep
    refine ⟨hTracked, hSend,
      (fun _ hNext => by cases hNext), ?_, ?_⟩
    · intro r' hOld
      right
      rcases hAnswering.waiting r' hOld with
        hWaiting | hAnswered
      · rw [hState] at hWaiting
        rw [← Request.waiting_injective hWaiting]
        exact hAnswer
      · rw [hState] at hAnswered
        exact absurd hAnswered.symm
          (r'.answered_ne_waiting r)
    · intro r' hOld
      have hAnswered := hAnswering.answered r' hOld
      rw [hState] at hAnswered
      exact absurd hAnswered.symm (r'.answered_ne_waiting r)
  · have hTarget := target_recvHandlerStep hStep
    have hState : s'.state = s.state := by
      rcases hTarget.1 with hSame | ⟨hInside, hSome⟩
      · exact hSame
      · exfalso
        cases hPc : s.recvPc
        case setState target packet =>
          exact hSet ⟨target, packet, hPc⟩
        all_goals
          rw [hPc] at hInside hSome
          first
            | exact hInside.elim
            | cases hSome
    refine ⟨hTracked, hSend, ?_, ?_, ?_⟩
    · intro target hNext
      rw [hState]
      rcases hTarget.2 target hNext with
        hOld | ⟨packet, _, hAck⟩
      · exact hAnswering.target target hOld
      · exact answers_of_ackTarget hAck
    · rw [hState, hPhase]
      exact hAnswering.waiting
    · rw [hState, hPhase]
      exact hAnswering.answered

/- No step without used up retries ends a wait otherwise. -/
theorem answering_step
    {s s' : Sender}
    {action : Action}
    (hAnswering : Answering s)
    (hStep : s.step action = some s')
    (hExhausted : s'.history.exhausted = []) :
    Answering s' := by
  have hTracked := callTracked_step hAnswering.tracked hStep
  have hSend : ¬ s'.sendPc.Exhausting := by
    intro hNow
    rcases exhausting_step hStep hNow with hOld | hNoted
    · exact hAnswering.sending hOld
    · exact hNoted hExhausted
  cases action with
  | call call =>
      have hBegins := callBegins_callStep hStep
      have hNone : s.recvPc.target? = none := by
        apply hAnswering.target_eq_none
        rw [hBegins.resting]
        rfl
      refine ⟨hTracked, hSend, ?_, ?_, ?_⟩
      · intro target hNext
        rw [(callStep_keeps hStep).recvPc, hNone] at hNext
        cases hNext
      · intro r hPhase
        rw [hBegins.phase] at hPhase
        cases call
        all_goals
          rcases hPhase with hNow | hNow
          · cases hNow
          · cases hNow
      · intro r hPhase
        rw [hBegins.phase] at hPhase
        cases call
        all_goals cases hPhase
  | thread thread =>
      cases thread with
      | caller => exact answering_callerStep hAnswering hStep
      | sendHandler =>
          have hKeeps := sendHandlerStep_keeps hStep
          apply hAnswering.congr hTracked hSend ?_ ?_
            (phase_of_wake hKeeps.callerPc)
          · rw [hKeeps.recvPc]
            exact fun _ hOld => hOld
          · rcases state_sendHandlerStep hStep with
              hSame | ⟨⟨seq, hPc⟩, _⟩
            · exact hSame
            · apply absurd ?_ hAnswering.sending
              rw [hPc]
              trivial
      | recvHandler =>
          exact answering_recvHandlerStep hAnswering hStep
      | timeoutHandler =>
          have hKeeps := timeoutHandlerStep_keeps hStep
          apply hAnswering.congr hTracked hSend ?_
            hKeeps.state (by rw [hKeeps.callerPc])
          rw [hKeeps.recvPc]
          exact fun _ hOld => hOld
  | timer =>
      rcases Option.map_eq_some_iff.mp hStep with
        ⟨timer, _, rfl⟩
      exact hAnswering.congr hTracked hSend
        (fun _ hOld => hOld) rfl rfl
  | recv result =>
      have hKeeps := recvStep_keeps hStep
      apply hAnswering.congr hTracked hSend ?_ hKeeps.state
        (phase_of_wake hKeeps.callerPc)
      intro target hNext
      rcases hKeeps.next with ⟨bytes, hDecode⟩ | hTest
      · rw [hDecode] at hNext
        cases hNext
      · rw [hTest] at hNext
        cases hNext
  | tick duration =>
      cases hStep
      exact hAnswering.congr hTracked hSend
        (fun _ hOld => hOld) rfl rfl
  | wakeCaller =>
      cases hStep
      exact hAnswering.congr hTracked hSend
        (fun _ hOld => hOld) rfl
        (phase_of_wake (Or.inr rfl))
  | wakeTimer =>
      cases hStep
      exact hAnswering.congr hTracked hSend
        (fun _ hOld => hOld) rfl rfl

end Sender

end Nkurdt
