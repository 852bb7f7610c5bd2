import Nkurdt.Sender.Acks

/-
  Retries that are used up, and the call that waits.

  `send_handler` reports used up retries through `state_`,
  and so does `recv_handler` an acknowledgement. What the
  waiting call returns depends on the state alone: for
  `connect` and the first wait of `send` the two reports are
  different states, for the last wait of `send` and for
  `disconnect` they are the same one. A run in which no
  report of a failure gives the state of a success returns
  no success for a call that has failed.

  Main declarations:
    * `Sender.CallFailed`
    * `Sender.SuccessDue`
    * `Sender.FailureSeen`
    * `Sender.not_callFailed_of_returnsSuccess`
    * `Sender.exists_callFailed_of_returnsSuccess`
-/

------------------------------------------------------------
-- Failed Calls
------------------------------------------------------------

namespace Nkurdt

/- The states in which the wait ends the call with success. -/
def Request.Succeeds : Request → SenderState → Prop
| .connect, state => state = .connected
| .push, _ => False
| .stop, state => state = .connected
| .disconnect, state => state = .idle

instance (r : Request) (state : SenderState) :
    Decidable (r.Succeeds state) := by
  cases r
  all_goals
    unfold Request.Succeeds
    infer_instance

def Transfer.request? : Transfer → Option Request
| .request r => some r
| .data _ => none

namespace CallerPc

/- The request that is sent and waited for. -/
def sent? : CallerPc → Option Request
| .waitWindow t => t.request?
| .testRunning t => t.request?
| .upperBound t => t.request?
| .updateUpper t _ => t.request?
| .lockPool t _ => t.request?
| .emplace t _ => t.request?
| .push t _ => t.request?
| .unlockPool t => t.request?
| .check r => some r
| .wait r => some r
| .relock r => some r
| _ => none

/-
  The request that decides about the result of the call,
  from the moment at which no other can.
-/
def request? : CallerPc → Option Request
| .lockState r => some r
| .enter r => some r
| .finish r => some r
| .throughput => some .stop
| pc => pc.sent?

/- In `stop`, which sends nothing. -/
def InStop : CallerPc → Prop
| .stopRunning => True
| .stopTimer => True
| .notifyTimer => True
| .joinTimer => True
| .joinSend => True
| .joinRecv => True
| .joinTimeout => True
| _ => False

end CallerPc

/- The state that `recv_handler` is about to set. -/
def RecvPc.target? : RecvPc → Option SenderState
| .lockState target _ => some target
| .setState target _ => some target
| _ => none

namespace Sender

/-
  A packet of the call has used up its retries, and it has
  not been acknowledged.
-/
def CallFailed (s : Sender) : Prop :=
  ∃ n ∈ s.history.exhausted,
    s.history.callFirst ≤ n ∧ ¬ s.AckReceived n

instance (s : Sender) : Decidable s.CallFailed :=
  inferInstanceAs (Decidable (∃ _ ∈ _, _))

/-
  The state in which the call succeeds is there, or
  `recv_handler` is about to set it.
-/
def SuccessDue (s : Sender) : Prop :=
  ∃ r ∈ s.callerPc.request?,
    r.Succeeds s.state ∨
      ∃ target ∈ s.recvPc.target?, r.Succeeds target

instance (s : Sender) : Decidable s.SuccessDue :=
  inferInstanceAs (Decidable (∃ _ ∈ _, _))

/- The step returns from a call with success. -/
def ReturnsSuccess (s : Sender) (action : Action) : Prop :=
  ∃ s' ∈ s.step action,
    s'.history.results = s.history.results ++ [.success]

instance (s : Sender) (action : Action) :
    Decidable (s.ReturnsSuccess action) :=
  inferInstanceAs (Decidable (∃ _ ∈ _, _))

/-
  The retries of a packet of the call are found used up when
  the success of the call is due.
-/
def FailsTooLate (s : Sender) : Prop :=
  s.SuccessDue ∧ s.FindsUsedUp ∧
    ∃ n ∈ s.sendPc.number?,
      s.history.callFirst ≤ n ∧ ¬ s.AckReceived n

instance (s : Sender) : Decidable s.FailsTooLate :=
  inferInstanceAs (Decidable (_ ∧ _))

/-
  The failure of the call is reported by the state that the
  call takes for success.
-/
def ReportsAsSuccess (s : Sender) : Prop :=
  match s.sendPc with
  | .exhausted _ =>
      s.CallFailed ∧
        (s.state = .stopping ∨ s.state = .disconnecting)
  | _ => False

instance (s : Sender) : Decidable s.ReportsAsSuccess := by
  unfold ReportsAsSuccess
  generalize s.sendPc = pc
  rcases pc with ⟨⟩ <;> infer_instance

/-
  An acknowledgement of something else is taken for the one
  of the request whose retries are used up.
-/
def TakesForeignAck (s : Sender) : Prop :=
  match s.recvPc with
  | .dispatch packet =>
      s.CallFailed ∧
        ∃ target ∈ ackTarget s.state packet.kind,
          ∃ r ∈ s.callerPc.request?, r.Succeeds target
  | _ => False

instance (s : Sender) : Decidable s.TakesForeignAck := by
  unfold TakesForeignAck
  generalize s.recvPc = pc
  rcases pc with ⟨⟩ <;> infer_instance

/- The step hides the failure of the call. -/
def HidesFailure (s : Sender) : Action → Prop
| .thread .sendHandler =>
    s.FailsTooLate ∨ s.ReportsAsSuccess
| .thread .recvHandler => s.TakesForeignAck
| _ => False

instance (s : Sender) (action : Action) :
    Decidable (s.HidesFailure action) := by
  unfold HidesFailure
  rcases action with _ | ⟨⟨⟩⟩ | _ | _ | _ | _ | _
  all_goals infer_instance

/-
  A packet that is no acknowledgement is not taken for the
  one that is missing for a packet of the call.
-/
def MovesByAck (s : Sender) : Action → Prop
| .thread .recvHandler =>
    match s.recvPc with
    | .insertAck packet =>
        ∀ n ∈ s.history.exhausted,
          s.history.callFirst ≤ n → ¬ s.AckReceived n →
            s.Covers n packet → packet.kind.isAck = true
    | _ => True
| _ => True

instance (s : Sender) (action : Action) :
    Decidable (s.MovesByAck action) := by
  unfold MovesByAck
  generalize s.recvPc = pc
  rcases action with _ | ⟨⟨⟩⟩ | _ | _ | _ | _ | _
  all_goals rcases pc with ⟨⟩
  all_goals infer_instance

/-
  Bounds do not wrap around, nothing else is taken for a
  missing acknowledgement, and no step hides a failure.
-/
structure FailureSeen
    (s : Sender)
    (action : Action)
    (s' : Sender) : Prop where
  wrap : NoWrap s s'
  moves : s.MovesByAck action
  seen : ¬ s.HidesFailure action

instance (s : Sender) (action : Action) (s' : Sender) :
    Decidable (FailureSeen s action s') :=
  decidable_of_iff
    (NoWrap s s' ∧ s.MovesByAck action ∧
      ¬ s.HidesFailure action)
    ⟨fun hAll => ⟨hAll.1, hAll.2.1, hAll.2.2⟩,
      fun hSeen => ⟨hSeen.wrap, hSeen.moves, hSeen.seen⟩⟩

end Sender

end Nkurdt

------------------------------------------------------------
-- Waiting Calls
------------------------------------------------------------

namespace Nkurdt

/- A wait does not end in the state it was entered with. -/
theorem Request.not_done_waiting
    (r : Request) :
    ¬ r.Done r.waiting := by
  cases r <;> decide

theorem Request.waiting_injective
    {r r' : Request}
    (hEqual : r.waiting = r'.waiting) :
    r = r' := by
  cases r
  all_goals
    cases r'
    all_goals first
      | rfl
      | cases hEqual

/- The states that the handlers set end waits. -/
theorem Request.waiting_ne
    (r : Request) :
    r.waiting ≠ .idle ∧ r.waiting ≠ .connected ∧
      r.waiting ≠ .sending := by
  cases r <;> decide

/- Behind `send_packet`, a request is waited for. -/
theorem Transfer.sent?_after
    (t : Transfer) :
    t.after.sent? = t.request? := by
  cases t <;> rfl

namespace Sender

/- Being notified does not change what is waited for. -/
theorem requests_of_wake
    {pc pc' : CallerPc}
    (hCaller : pc' = pc ∨ pc' = wake pc) :
    pc'.sent? = pc.sent? ∧ pc'.request? = pc.request? ∧
      (∀ r, pc' = .finish r → pc = .finish r) ∧
      (pc'.InStop → pc.InStop) := by
  rcases hCaller with rfl | rfl
  · exact ⟨rfl, rfl, fun _ hPc => hPc, fun hStop => hStop⟩
  · cases pc
    case wait r =>
      exact ⟨rfl, rfl, (fun _ hPc => by cases hPc),
        fun hStop => hStop⟩
    all_goals
      exact ⟨rfl, rfl, fun _ hPc => hPc,
        fun hStop => hStop⟩

/-
  What a call in progress means for the shared state: a
  waiting state belongs to the call that waits, a finished
  wait has its state, and `stop` builds no packet.
-/
structure CallTracked (s : Sender) : Prop where
  guarded : MutexesGuarded s
  waiting :
    ∀ r : Request, s.state = r.waiting →
      s.callerPc.sent? = some r
  finished :
    ∀ r, s.callerPc = .finish r → r.Done s.state
  target :
    ∀ target, s.recvPc.target? = some target →
      ∀ r : Request, target ≠ r.waiting
  stopping :
    s.callerPc.InStop →
      s.history.callFirst = s.history.packets.length

theorem callTracked_fresh
    (config : SenderConfig) :
    CallTracked (fresh config) := by
  refine ⟨mutexesGuarded_fresh config, ?_, ?_, ?_, ?_⟩
  · exact fun r hState =>
      absurd hState.symm r.waiting_ne.1
  · exact fun _ hPc => by cases hPc
  · exact fun _ hTarget => by cases hTarget
  · exact fun hStop => hStop.elim

/- The caller does not leave a wait before its time. -/
theorem waiting_callerStep
    {s s' : Sender}
    (hTracked : CallTracked s)
    (hStep : s.callerStep = some s')
    (r : Request)
    (hState : s'.state = r.waiting) :
    s'.callerPc.sent? = some r := by
  have hWaiting := hTracked.waiting r
  cases callerStep_branch hStep with
  | enters =>
      rw [Request.waiting_injective hState]
      rfl
  | skips _ hIdle =>
      exact absurd (hState.symm.trans hIdle.2)
        r.waiting_ne.1
  | findsDone hPc hDone =>
      have hSent := hWaiting hState
      rw [hPc] at hSent
      cases hSent
      have hNow : s.state = r.waiting := hState
      rw [hNow] at hDone
      exact absurd hDone r.not_done_waiting
  | @abandons t hPc | @unlocksPool t hPc =>
      have hSent := hWaiting hState
      rw [hPc] at hSent
      exact t.sent?_after.trans hSent
  | _ hPc =>
      have hSent := hWaiting hState
      rw [hPc] at hSent
      exact hSent

/- A wait is finished in a state that it waits for. -/
theorem finished_callerStep
    {s s' : Sender}
    (hStep : s.callerStep = some s')
    (r : Request)
    (hNext : s'.callerPc = .finish r) :
    r.Done s'.state := by
  cases callerStep_branch hStep with
  | skips _ hIdle =>
      cases hNext
      rw [hIdle.1]
      exact hIdle.2
  | findsDone _ hDone =>
      cases hNext
      exact hDone
  | @abandons t | @unlocksPool t =>
      cases t <;> cases hNext
  | _ => cases hNext

/- In `stop` no packet is built. -/
theorem inStop_callerStep
    {s s' : Sender}
    (hStep : s.callerStep = some s')
    (hNext : s'.callerPc.InStop) :
    s.callerPc.InStop ∧
      s'.history.callFirst = s.history.callFirst ∧
      s'.history.packets = s.history.packets := by
  cases callerStep_branch hStep with
  | @abandons t | @unlocksPool t =>
      cases t <;> exact hNext.elim
  | _ hPc =>
      first
        | exact hNext.elim
        | exact ⟨by rw [hPc]; trivial, rfl, rfl⟩

theorem callTracked_callerStep
    {s s' : Sender}
    (hTracked : CallTracked s)
    (hStep : s.callerStep = some s') :
    CallTracked s' := by
  refine
    ⟨mutexesGuarded_callerStep hTracked.guarded hStep,
      waiting_callerStep hTracked hStep,
      finished_callerStep hStep, ?_, ?_⟩
  · rw [(callerStep_keeps hStep).recvPc]
    exact hTracked.target
  · intro hStop
    rcases inStop_callerStep hStep hStop with
      ⟨hOld, hFirst, hPackets⟩
    rw [hFirst, hPackets]
    exact hTracked.stopping hOld

/-
  A step of another thread: what it does to the state ends a
  wait at most, and not one that is over.
-/
theorem callTracked_of_wake
    {s s' : Sender}
    (hTracked : CallTracked s)
    (hGuarded : MutexesGuarded s')
    (hCaller :
      s'.callerPc = s.callerPc ∨
        s'.callerPc = wake s.callerPc)
    (hState :
      s'.state = s.state ∨
        (¬ s.callerPc.InState ∧
          ∀ r : Request, s'.state ≠ r.waiting))
    (hTarget :
      ∀ target, s'.recvPc.target? = some target →
        ∀ r : Request, target ≠ r.waiting)
    (hFirst :
      s'.history.callFirst = s.history.callFirst)
    (hPackets : s'.history.packets = s.history.packets) :
    CallTracked s' := by
  have hSame := requests_of_wake hCaller
  refine ⟨hGuarded, ?_, ?_, hTarget, ?_⟩
  · intro r hWaiting
    rw [hSame.1]
    rcases hState with hEqual | hOther
    · rw [hEqual] at hWaiting
      exact hTracked.waiting r hWaiting
    · exact absurd hWaiting (hOther.2 r)
  · intro r hPc
    have hOld := hSame.2.2.1 r hPc
    rcases hState with hEqual | hOther
    · rw [hEqual]
      exact hTracked.finished r hOld
    · rw [hOld] at hOther
      exact absurd trivial hOther.1
  · intro hStop
    rw [hFirst, hPackets]
    exact hTracked.stopping (hSame.2.2.2 hStop)

/- The state that the report of a failure leaves. -/
theorem state_sendHandlerStep
    {s s' : Sender}
    (hStep : s.sendHandlerStep = some s') :
    s'.state = s.state ∨
      (∃ seq, s.sendPc = .exhausted seq) ∧
        (s'.state = .connected ∧
            (s.state = .stopping ∨ s.state = .pushing) ∨
          s'.state = .idle ∧
            (s.state = .connecting ∨
              s.state = .disconnecting)) := by
  cases sendHandlerStep_branch hStep with
  | failsTransfer hPc hState =>
      exact Or.inr ⟨⟨_, hPc⟩, Or.inl ⟨rfl, hState⟩⟩
  | failsConnection hPc hState =>
      exact Or.inr ⟨⟨_, hPc⟩, Or.inr ⟨rfl, hState⟩⟩
  | _ => exact Or.inl rfl

/- The state that an acknowledgement leaves. -/
theorem target_recvHandlerStep
    {s s' : Sender}
    (hStep : s.recvHandlerStep = some s') :
    (s'.state = s.state ∨
        s.recvPc.InState ∧
          s.recvPc.target? = some s'.state) ∧
      ∀ target, s'.recvPc.target? = some target →
        s.recvPc.target? = some target ∨
          ∃ packet, s.recvPc = .dispatch packet ∧
            ackTarget s.state packet.kind =
              some target := by
  cases recvHandlerStep_branch hStep with
  | takes hPc hTarget =>
      refine ⟨Or.inl rfl, ?_⟩
      intro target hNext
      cases hNext
      exact Or.inr ⟨_, hPc, hTarget⟩
  | locksState hPc =>
      rw [hPc]
      exact ⟨Or.inl rfl, fun _ hNext => Or.inl hNext⟩
  | setsState hPc =>
      rw [hPc]
      exact ⟨Or.inr ⟨trivial, rfl⟩,
        fun _ hNext => by cases hNext⟩
  | _ => exact ⟨Or.inl rfl, fun _ hNext => by cases hNext⟩

/- The switch on the state sets no waiting state. -/
theorem ackTarget_ne_waiting
    {state target : SenderState}
    {kind : PacketKind}
    (hTarget : ackTarget state kind = some target)
    (r : Request) :
    target ≠ r.waiting := by
  unfold ackTarget at hTarget
  split at hTarget
  all_goals cases hTarget
  · exact r.waiting_ne.2.1.symm
  · exact r.waiting_ne.2.2.symm
  · exact r.waiting_ne.2.1.symm
  · exact r.waiting_ne.1.symm

theorem callTracked_sendHandlerStep
    {s s' : Sender}
    (hTracked : CallTracked s)
    (hStep : s.sendHandlerStep = some s') :
    CallTracked s' := by
  have hKeeps := sendHandlerStep_keeps hStep
  refine callTracked_of_wake hTracked
    (mutexesGuarded_sendHandlerStep hTracked.guarded hStep)
    hKeeps.callerPc ?_ ?_ hKeeps.callFirst hKeeps.packets
  · rcases state_sendHandlerStep hStep with
      hSame | ⟨⟨seq, hPc⟩, hState⟩
    · exact Or.inl hSame
    · refine Or.inr ⟨?_, ?_⟩
      · intro hCaller
        have hSend : s.sendPc.InState := by
          rw [hPc]
          trivial
        have hEqual : Thread.caller = Thread.sendHandler :=
          hTracked.guarded.state.exclusive hCaller hSend
        cases hEqual
      · intro r
        rcases hState with ⟨hNew, _⟩ | ⟨hNew, _⟩
        · rw [hNew]
          exact r.waiting_ne.2.1.symm
        · rw [hNew]
          exact r.waiting_ne.1.symm
  · rw [hKeeps.recvPc]
    exact hTracked.target

theorem callTracked_recvHandlerStep
    {s s' : Sender}
    (hTracked : CallTracked s)
    (hStep : s.recvHandlerStep = some s') :
    CallTracked s' := by
  have hKeeps := recvHandlerStep_keeps hStep
  have hTarget := target_recvHandlerStep hStep
  refine callTracked_of_wake hTracked
    (mutexesGuarded_recvHandlerStep hTracked.guarded hStep)
    hKeeps.callerPc ?_ ?_ hKeeps.callFirst hKeeps.packets
  · refine hTarget.1.imp_right ?_
    intro hSet
    refine ⟨?_, hTracked.target _ hSet.2⟩
    intro hCaller
    have hEqual : Thread.caller = Thread.recvHandler :=
      hTracked.guarded.state.exclusive hCaller hSet.1
    cases hEqual
  · intro target hNext
    rcases hTarget.2 target hNext with
      hOld | ⟨packet, _, hAck⟩
    · exact hTracked.target target hOld
    · exact ackTarget_ne_waiting hAck

/- Every step keeps the call tracked. -/
theorem callTracked_step
    {s s' : Sender}
    {action : Action}
    (hTracked : CallTracked s)
    (hStep : s.step action = some s') :
    CallTracked s' := by
  have hGuarded := mutexesGuarded_step hTracked.guarded hStep
  cases action with
  | call call =>
      unfold step callStep at hStep
      dsimp only at hStep
      split_ifs at hStep with hIdle
      have hWaiting :
          ∀ r : Request, s.state ≠ r.waiting := by
        intro r hState
        have hSent := hTracked.waiting r hState
        rw [hIdle] at hSent
        cases hSent
      cases call
      all_goals
        rw [← Option.some.inj hStep] at hGuarded ⊢
        exact ⟨hGuarded,
          fun r hState => absurd hState (hWaiting r),
          (fun _ hPc => by cases hPc), hTracked.target,
          fun _ => rfl⟩
  | thread thread =>
      cases thread with
      | caller => exact callTracked_callerStep hTracked hStep
      | sendHandler =>
          exact callTracked_sendHandlerStep hTracked hStep
      | recvHandler =>
          exact callTracked_recvHandlerStep hTracked hStep
      | timeoutHandler =>
          have hKeeps := timeoutHandlerStep_keeps hStep
          refine callTracked_of_wake hTracked hGuarded
            (Or.inl hKeeps.callerPc) (Or.inl hKeeps.state)
            ?_ (by rw [hKeeps.history])
            (by rw [hKeeps.history])
          rw [hKeeps.recvPc]
          exact hTracked.target
  | timer =>
      rcases Option.map_eq_some_iff.mp hStep with
        ⟨timer, _, rfl⟩
      exact callTracked_of_wake hTracked hGuarded
        (Or.inl rfl) (Or.inl rfl) hTracked.target rfl rfl
  | recv result =>
      have hKeeps := recvStep_keeps hStep
      refine callTracked_of_wake hTracked hGuarded
        hKeeps.callerPc (Or.inl hKeeps.state) ?_
        hKeeps.callFirst hKeeps.packets
      intro target hTarget
      rcases hKeeps.next with ⟨bytes, hNext⟩ | hNext
      · rw [hNext] at hTarget
        cases hTarget
      · rw [hNext] at hTarget
        cases hTarget
  | tick duration =>
      rw [← Option.some.inj hStep] at hGuarded ⊢
      exact callTracked_of_wake hTracked hGuarded
        (Or.inl rfl) (Or.inl rfl) hTracked.target rfl rfl
  | wakeCaller =>
      rw [← Option.some.inj hStep] at hGuarded ⊢
      exact callTracked_of_wake hTracked hGuarded
        (Or.inr rfl) (Or.inl rfl) hTracked.target rfl rfl
  | wakeTimer =>
      rw [← Option.some.inj hStep] at hGuarded ⊢
      exact callTracked_of_wake hTracked hGuarded
        (Or.inl rfl) (Or.inl rfl) hTracked.target rfl rfl

end Sender

end Nkurdt

------------------------------------------------------------
-- Failures Seen
------------------------------------------------------------

namespace Nkurdt

/- A waiting state is no success. -/
theorem Request.not_succeeds_waiting
    (r : Request) :
    ¬ r.Succeeds r.waiting := by
  cases r <;> decide

/- The request of a wait decides about the result. -/
theorem CallerPc.request?_of_sent?
    {pc : CallerPc}
    {r : Request}
    (hSent : pc.sent? = some r) :
    pc.request? = some r := by
  cases pc
  all_goals first
    | exact hSent
    | cases hSent

namespace Sender

/- What has not failed before fails by used up retries. -/
theorem callFailed_mono
    {s s' : Sender}
    (hMode : s'.selectiveRepeat = s.selectiveRepeat)
    (hReceived :
      ∀ packet ∈ s.history.received,
        packet ∈ s'.history.received)
    (hExhausted :
      s'.history.exhausted = s.history.exhausted)
    (hFirst : s'.history.callFirst = s.history.callFirst)
    (hFailed : s'.CallFailed) :
    s.CallFailed := by
  rcases hFailed with ⟨n, hMember, hOwn, hNot⟩
  rw [hExhausted] at hMember
  rw [hFirst] at hOwn
  exact ⟨n, hMember, hOwn, fun hAck =>
    hNot (ackReceived_mono hMode hReceived hAck)⟩

/- Nobody but the handlers and the caller makes it due. -/
theorem successDue_congr
    {s s' : Sender}
    (hCaller :
      s'.callerPc = s.callerPc ∨
        s'.callerPc = wake s.callerPc)
    (hState : s'.state = s.state)
    (hTarget :
      ∀ target, s'.recvPc.target? = some target →
        s.recvPc.target? = some target)
    (hDue : s'.SuccessDue) :
    s.SuccessDue := by
  rcases hDue with ⟨r, hRequest, hSucceeds⟩
  rw [(requests_of_wake hCaller).2.1] at hRequest
  refine ⟨r, hRequest, ?_⟩
  rcases hSucceeds with hNow | ⟨target, hSome, hSoon⟩
  · rw [hState] at hNow
    exact Or.inl hNow
  · exact Or.inr ⟨target, hTarget target hSome, hSoon⟩

/-
  The invariant of runs whose failures are seen. A number of
  the call that is used up and taken for acknowledged has
  been acknowledged.
-/
structure FailuresSeen (s : Sender) : Prop where
  originals : Originals s
  allocated : Allocated s
  acks : AcksTaken s
  cleared : Cleared s
  answered :
    ∀ n ∈ s.history.exhausted, s.history.callFirst ≤ n →
      s.Taken n → s.AckReceived n
  calls : CallTracked s
  failed : s.CallFailed → ¬ s.SuccessDue

theorem failuresSeen_fresh
    (config : SenderConfig) :
    FailuresSeen (fresh config) := by
  refine ⟨originals_fresh config, allocated_fresh config,
    acksTaken_fresh config, cleared_fresh config, ?_,
    callTracked_fresh config, ?_⟩
  · exact fun _ hMember => by cases hMember
  · intro hFailed
    rcases hFailed with ⟨n, hMember, _⟩
    cases hMember

/- With an empty window no packet of the call has failed. -/
theorem not_callFailed_of_zero
    {s : Sender}
    (hSeen : FailuresSeen s)
    (hZero : s.window.Zero) :
    ¬ s.CallFailed := by
  intro hFailed
  rcases hFailed with ⟨n, hMember, hOwn, hNot⟩
  apply hNot
  apply hSeen.answered n hMember hOwn
  left
  have hUpper := hSeen.allocated.exhausted n hMember
  have hEqual :
      s.window.upperBound = s.window.lowerBound := hZero
  rw [← hEqual]
  exact hUpper

/- How a request comes to decide about the result. -/
theorem request?_callerStep
    {s s' : Sender}
    {r : Request}
    (hStep : s.callerStep = some s')
    (hNext : s'.callerPc.request? = some r) :
    s.callerPc.request? = some r ∧
        (s'.state = s.state ∨ s'.state = r.waiting) ∨
      s.window.Zero := by
  cases callerStep_branch hStep with
  | enters hPc =>
      cases hNext
      exact Or.inl ⟨by rw [hPc]; rfl, Or.inr rfl⟩
  | drains _ _ hZero => exact Or.inr hZero
  | @abandons t hPc | @unlocksPool t hPc =>
      refine Or.inl ⟨?_, Or.inl rfl⟩
      rw [hPc]
      cases t <;> exact hNext
  | _ hPc =>
      first
        | exact Or.inl ⟨by rw [hPc]; exact hNext, Or.inl rfl⟩
        | cases hNext

/- A step of a call belongs to the call. -/
theorem callFirst_callerStep
    {s s' : Sender}
    (hStep : s.callerStep = some s') :
    s'.history.callFirst = s.history.callFirst ∧
      s'.history.calls = s.history.calls := by
  cases callerStep_branch hStep
  all_goals exact ⟨rfl, rfl⟩

theorem failed_callerStep
    {s s' : Sender}
    (hSeen : FailuresSeen s)
    (hStep : s.callerStep = some s')
    (hFailed : s'.CallFailed) :
    ¬ s'.SuccessDue := by
  have hKeeps := callerStep_keeps hStep
  have hOld : s.CallFailed := by
    apply callFailed_mono hKeeps.selectiveRepeat ?_
      hKeeps.exhausted (callFirst_callerStep hStep).1 hFailed
    rw [hKeeps.received]
    exact fun _ hMember => hMember
  intro hDue
  apply hSeen.failed hOld
  rcases hDue with ⟨r, hRequest, hSucceeds⟩
  rw [hKeeps.recvPc] at hSucceeds
  rcases request?_callerStep hStep hRequest with
    ⟨hSame, hState⟩ | hZero
  · refine ⟨r, hSame, ?_⟩
    rcases hSucceeds with hNow | hSoon
    · rcases hState with hEqual | hWaiting
      · rw [hEqual] at hNow
        exact Or.inl hNow
      · rw [hWaiting] at hNow
        exact absurd hNow r.not_succeeds_waiting
    · exact Or.inr hSoon
  · exact absurd hOld (not_callFailed_of_zero hSeen hZero)

/- How a number comes to be noted as used up. -/
theorem exhausted_sendHandlerStep
    {s s' : Sender}
    (hStep : s.sendHandlerStep = some s') :
    s'.history.exhausted = s.history.exhausted ∨
      s.FindsUsedUp ∧ s'.state = s.state ∧
        ∃ n, s.sendPc.number? = some n ∧
          s'.history.exhausted =
            s.history.exhausted ++ [n] := by
  cases sendHandlerStep_branch hStep with
  | @usesUp seq count hPc hCount hUsedUp =>
      refine Or.inr ⟨?_, rfl, seq, by rw [hPc]; rfl, rfl⟩
      unfold FindsUsedUp
      simp only [hPc, hCount]
      exact hUsedUp
  | _ => exact Or.inl rfl

/- Only `send_handler` finds retries used up, one at a time. -/
theorem exhausted_step
    {s s' : Sender}
    {action : Action}
    (hStep : s.step action = some s') :
    s'.history.exhausted = s.history.exhausted ∨
      action = .thread .sendHandler ∧ s.FindsUsedUp ∧
        ∃ n, s.sendPc.number? = some n ∧
          s'.history.exhausted =
            s.history.exhausted ++ [n] := by
  by_cases hSend : action = .thread .sendHandler
  · subst hSend
    rcases exhausted_sendHandlerStep hStep with
      hSame | ⟨hUsedUp, _, hNoted⟩
    · exact Or.inl hSame
    · exact Or.inr ⟨rfl, hUsedUp, hNoted⟩
  · exact Or.inl (sendHandler_of_other hStep hSend).2

/- A number that is found used up has passed the checks. -/
theorem inWindow?_of_findsUsedUp
    {s : Sender}
    {n : Nat}
    (hFinds : s.FindsUsedUp)
    (hNumber : s.sendPc.number? = some n) :
    s.sendPc.inWindow? = some n := by
  unfold FindsUsedUp at hFinds
  cases hPc : s.sendPc
  all_goals rw [hPc] at hFinds hNumber
  case retry => exact hNumber
  all_goals exact hFinds.elim

/- A used up number of the call was one before the step. -/
theorem callFirst_le_of_exhausted
    {s s' : Sender}
    {action : Action}
    {n : Nat}
    (hOriginals : Originals s)
    (hAllocated : Allocated s)
    (hStep : s.step action = some s')
    (hMember : n ∈ s.history.exhausted)
    (hOwn : s'.history.callFirst ≤ n) :
    s.history.callFirst ≤ n := by
  by_cases hCaller : action = .thread .caller
  · subst hCaller
    rw [(callFirst_callerStep hStep).1] at hOwn
    exact hOwn
  by_cases hCall : ∃ call, action = .call call
  · rcases hCall with ⟨call, rfl⟩
    have hOld := hAllocated.exhausted n hMember
    rw [(callStep_keeps hStep).callFirst,
      hOriginals.length] at hOwn
    omega
  · push Not at hCall
    rw [(callKept_step hStep hCall hCaller).callFirst] at hOwn
    exact hOwn

/-
  What is taken for the acknowledgement of a used up number
  is one.
-/
theorem answered_step
    {s s' : Sender}
    {action : Action}
    {n : Nat}
    (hSeen : FailuresSeen s)
    (hStep : s.step action = some s')
    (hMoves : s.MovesByAck action)
    (hMember : n ∈ s'.history.exhausted)
    (hOwn : s'.history.callFirst ≤ n)
    (hTaken : s'.Taken n) :
    s'.AckReceived n := by
  have hReady := hSeen.acks.ready
  have hStays : s.AckReceived n → s'.AckReceived n :=
    ackReceived_mono (sameConfig_step hStep).selectiveRepeat
      (fun _ => mem_received_step hStep)
  rcases exhausted_step hStep with
    hSame | ⟨rfl, hFinds, seq, hNumber, hNoted⟩
  · rw [hSame] at hMember
    have hFirst := callFirst_le_of_exhausted hSeen.originals
      hSeen.allocated hStep hMember hOwn
    apply hStays
    rcases taken_or_covers hReady hStep hTaken with
      hOld | ⟨rfl, packet, hPc, hCovers⟩
    · exact hSeen.answered n hMember hFirst hOld
    · by_contra hMissing
      unfold MovesByAck at hMoves
      rw [hPc] at hMoves
      have hKind :=
        hMoves n hMember hFirst hMissing hCovers
      have hReceived :=
        hSeen.acks.inHand packet (by rw [hPc]; rfl)
      exact hMissing ⟨packet, hReceived, hKind, hCovers⟩
  · rcases taken_or_covers hReady hStep hTaken with
      hOld | ⟨hOther, _⟩
    · rw [hNoted] at hMember
      rcases List.mem_append.mp hMember with hBefore | hNew
      · have hFirst := callFirst_le_of_exhausted
          hSeen.originals hSeen.allocated hStep hBefore hOwn
        exact hStays (hSeen.answered n hBefore hFirst hOld)
      · rw [← List.mem_singleton.mp hNew] at hNumber
        exact absurd hOld (hSeen.cleared.not_taken
          hSeen.calls.guarded
          (inWindow?_of_findsUsedUp hFinds hNumber))
    · cases hOther

/-
  A report of a failure gives a state that the call does not
  take for success.
-/
theorem not_successDue_of_reported
    {s s' : Sender}
    (hSeen : FailuresSeen s)
    (hStep : s.sendHandlerStep = some s')
    (hOld : s.CallFailed)
    (hReports : ¬ s.ReportsAsSuccess) :
    ¬ s'.SuccessDue := by
  have hKeeps := sendHandlerStep_keeps hStep
  have hRequest := (requests_of_wake hKeeps.callerPc).2.1
  have hNotDue := hSeen.failed hOld
  intro hDue
  rcases state_sendHandlerStep hStep with
    hSame | ⟨⟨seq, hPc⟩, hState⟩
  · apply hNotDue
    apply successDue_congr hKeeps.callerPc hSame ?_ hDue
    rw [hKeeps.recvPc]
    exact fun _ hTarget => hTarget
  · have hNot :
        ¬ (s.state = .stopping ∨
          s.state = .disconnecting) := by
      intro hEither
      apply hReports
      unfold ReportsAsSuccess
      rw [hPc]
      exact ⟨hOld, hEither⟩
    rcases hDue with ⟨r, hSome, hSucceeds⟩
    rw [hRequest] at hSome
    rw [hKeeps.recvPc] at hSucceeds
    rcases hState with ⟨hNew, hFrom⟩ | ⟨hNew, hFrom⟩
    · have hPushing :=
        hFrom.resolve_left (fun hStop => hNot (Or.inl hStop))
      have hPush :=
        CallerPc.request?_of_sent?
          (hSeen.calls.waiting .push hPushing)
      rw [hPush] at hSome
      cases hSome
      rcases hSucceeds with hNow | ⟨_, _, hSoon⟩
      · exact hNow
      · exact hSoon
    · have hConnecting :=
        hFrom.resolve_right (fun hEnd => hNot (Or.inr hEnd))
      have hConnect :=
        CallerPc.request?_of_sent?
          (hSeen.calls.waiting .connect hConnecting)
      have hSame := hConnect
      rw [hSome] at hConnect
      cases hConnect
      rcases hSucceeds with hNow | hSoon
      · rw [hNew] at hNow
        cases hNow
      · exact hNotDue ⟨.connect, hSame, Or.inr hSoon⟩

theorem failed_sendHandlerStep
    {s s' : Sender}
    (hSeen : FailuresSeen s)
    (hStep : s.sendHandlerStep = some s')
    (hClear : ¬ s.HidesFailure (.thread .sendHandler))
    (hFailed : s'.CallFailed) :
    ¬ s'.SuccessDue := by
  have hKeeps := sendHandlerStep_keeps hStep
  have hReceived :
      ∀ packet ∈ s.history.received,
        packet ∈ s'.history.received := by
    rw [hKeeps.received]
    exact fun _ hMember => hMember
  by_cases hOld : s.CallFailed
  · exact not_successDue_of_reported hSeen hStep hOld
      (fun hReports => hClear (Or.inr hReports))
  · rcases exhausted_sendHandlerStep hStep with
      hSame | ⟨hUsed, hState, seq, hNumber, hNew⟩
    · exact absurd
        (callFailed_mono hKeeps.selectiveRepeat hReceived
          hSame hKeeps.callFirst hFailed) hOld
    · intro hDue
      apply hClear
      refine Or.inl ⟨?_, hUsed, ?_⟩
      · apply successDue_congr hKeeps.callerPc hState ?_ hDue
        rw [hKeeps.recvPc]
        exact fun _ hTarget => hTarget
      · rcases hFailed with ⟨n, hMember, hOwn, hNot⟩
        rw [hNew] at hMember
        rw [hKeeps.callFirst] at hOwn
        have hUnacked : ¬ s.AckReceived n :=
          fun hAck => hNot
            (ackReceived_mono hKeeps.selectiveRepeat
              hReceived hAck)
        rcases List.mem_append.mp hMember with
          hBefore | hLast
        · exact absurd ⟨n, hBefore, hOwn, hUnacked⟩ hOld
        · rw [List.mem_singleton.mp hLast] at hOwn hUnacked
          exact ⟨seq, hNumber, hOwn, hUnacked⟩

theorem failed_recvHandlerStep
    {s s' : Sender}
    (hSeen : FailuresSeen s)
    (hStep : s.recvHandlerStep = some s')
    (hClear : ¬ s.HidesFailure (.thread .recvHandler))
    (hFailed : s'.CallFailed) :
    ¬ s'.SuccessDue := by
  have hKeeps := recvHandlerStep_keeps hStep
  have hTarget := target_recvHandlerStep hStep
  have hOld : s.CallFailed :=
    callFailed_mono hKeeps.selectiveRepeat
      (fun _ => mem_received_recvHandlerStep hStep)
      hKeeps.exhausted hKeeps.callFirst hFailed
  intro hDue
  apply hSeen.failed hOld
  rcases hDue with ⟨r, hRequest, hSucceeds⟩
  rw [(requests_of_wake hKeeps.callerPc).2.1] at hRequest
  refine ⟨r, hRequest, ?_⟩
  rcases hSucceeds with hNow | ⟨target, hNext, hSoon⟩
  · rcases hTarget.1 with hSame | ⟨_, hSet⟩
    · rw [hSame] at hNow
      exact Or.inl hNow
    · exact Or.inr ⟨_, hSet, hNow⟩
  · rcases hTarget.2 target hNext with
      hBefore | ⟨packet, hPc, hAck⟩
    · exact Or.inr ⟨target, hBefore, hSoon⟩
    · apply absurd ?_ hClear
      show s.TakesForeignAck
      unfold TakesForeignAck
      rw [hPc]
      exact ⟨hOld, target, hAck, r, hRequest, hSoon⟩

/- A step that neither thread's report depends on. -/
theorem failed_of_bystander
    {s s' : Sender}
    (hSeen : FailuresSeen s)
    (hMode : s'.selectiveRepeat = s.selectiveRepeat)
    (hHistory : s'.history = s.history)
    (hCaller :
      s'.callerPc = s.callerPc ∨
        s'.callerPc = wake s.callerPc)
    (hState : s'.state = s.state)
    (hTarget :
      ∀ target, s'.recvPc.target? = some target →
        s.recvPc.target? = some target)
    (hFailed : s'.CallFailed) :
    ¬ s'.SuccessDue := by
  have hOld : s.CallFailed := by
    apply callFailed_mono hMode ?_ ?_ ?_ hFailed
    · rw [hHistory]
      exact fun _ hMember => hMember
    · rw [hHistory]
    · rw [hHistory]
  intro hDue
  exact hSeen.failed hOld
    (successDue_congr hCaller hState hTarget hDue)

/- Every step of such a run keeps the invariant. -/
theorem failuresSeen_step
    {s s' : Sender}
    {action : Action}
    (hSeen : FailuresSeen s)
    (hStep : s.step action = some s')
    (hClear : FailureSeen s action s') :
    FailuresSeen s' := by
  refine
    ⟨originals_step hSeen.originals hStep hClear.wrap,
      allocated_step hSeen.allocated hSeen.originals hStep
        hClear.wrap,
      acksTaken_step hSeen.acks hStep hClear.wrap,
      cleared_step hSeen.calls.guarded hSeen.cleared hStep,
      fun n => answered_step hSeen hStep hClear.moves,
      callTracked_step hSeen.calls hStep, ?_⟩
  intro hFailed
  cases action with
  | call call =>
      have hLess : ∀ n ∈ s.history.exhausted,
          n < s.history.packets.length := by
        rw [hSeen.originals.length]
        exact hSeen.allocated.exhausted
      unfold step callStep at hStep
      dsimp only at hStep
      split_ifs at hStep
      cases call
      all_goals
        rw [← Option.some.inj hStep] at hFailed
        rcases hFailed with ⟨n, hMember, hOwn, _⟩
        exact absurd (hLess n hMember) (not_lt.mpr hOwn)
  | thread thread =>
      cases thread with
      | caller => exact failed_callerStep hSeen hStep hFailed
      | sendHandler =>
          exact failed_sendHandlerStep hSeen hStep
            hClear.seen hFailed
      | recvHandler =>
          exact failed_recvHandlerStep hSeen hStep
            hClear.seen hFailed
      | timeoutHandler =>
          have hKeeps := timeoutHandlerStep_keeps hStep
          apply failed_of_bystander hSeen
            hKeeps.selectiveRepeat hKeeps.history
            (Or.inl hKeeps.callerPc) hKeeps.state ?_ hFailed
          rw [hKeeps.recvPc]
          exact fun _ hTarget => hTarget
  | timer =>
      rcases Option.map_eq_some_iff.mp hStep with
        ⟨timer, _, rfl⟩
      exact failed_of_bystander hSeen rfl rfl (Or.inl rfl)
        rfl (fun _ hTarget => hTarget) hFailed
  | recv result =>
      have hKeeps := recvStep_keeps hStep
      apply failed_of_bystander hSeen hKeeps.selectiveRepeat
        hKeeps.history hKeeps.callerPc hKeeps.state ?_ hFailed
      intro target hTarget
      rcases hKeeps.next with ⟨bytes, hNext⟩ | hNext
      · rw [hNext] at hTarget
        cases hTarget
      · rw [hNext] at hTarget
        cases hTarget
  | tick duration =>
      rw [← Option.some.inj hStep] at hFailed ⊢
      exact failed_of_bystander hSeen rfl rfl (Or.inl rfl)
        rfl (fun _ hTarget => hTarget) hFailed
  | wakeCaller =>
      rw [← Option.some.inj hStep] at hFailed ⊢
      exact failed_of_bystander hSeen rfl rfl (Or.inr rfl)
        rfl (fun _ hTarget => hTarget) hFailed
  | wakeTimer =>
      rw [← Option.some.inj hStep] at hFailed ⊢
      exact failed_of_bystander hSeen rfl rfl (Or.inl rfl)
        rfl (fun _ hTarget => hTarget) hFailed

end Sender

end Nkurdt

------------------------------------------------------------
-- Results
------------------------------------------------------------

namespace Nkurdt

namespace Sender

/- One result more is not the same results. -/
theorem results_ne_append
    (results : List CallResult)
    (result : CallResult) :
    results ≠ results ++ [result] := by
  intro hEqual
  have hLength := congrArg List.length hEqual
  rw [List.length_append, List.length_singleton] at hLength
  omega

/- The wait that ends with success waited for it. -/
theorem succeeds_of_finishStep
    {s : Sender}
    {r : Request}
    (hDone : r.Done s.state)
    (hResult :
      (s.finishStep r).history.results =
        s.history.results ++ [.success]) :
    r.Succeeds s.state := by
  cases r with
  | connect =>
      dsimp only [finishStep] at hResult
      split_ifs at hResult with hIdle
      · have hLast := List.append_cancel_left hResult
        cases hLast
      · exact hDone.resolve_right hIdle
  | push =>
      dsimp only [finishStep] at hResult
      split_ifs at hResult
      · have hLast := List.append_cancel_left hResult
        cases hLast
      · exact absurd hResult (results_ne_append _ _)
  | stop => exact hDone
  | disconnect => exact hDone

/-
  A call returns behind a wait, from `stop`, or because the
  sender has been stopped.
-/
theorem results_callerStep
    {s s' : Sender}
    {result : CallResult}
    (hStep : s.callerStep = some s')
    (hResult :
      s'.history.results =
        s.history.results ++ [result]) :
    (∃ r, s.callerPc = .finish r ∧ s' = s.finishStep r) ∨
      s.callerPc.InStop ∧ result = .success ∨
      result = .operationCanceled := by
  cases callerStep_branch hStep with
  | fails hPc hFinish | succeeds hPc hFinish =>
      exact Or.inl ⟨_, hPc, hFinish.symm⟩
  | cancels =>
      have hLast := List.append_cancel_left hResult
      cases hLast
      exact Or.inr (Or.inr rfl)
  | stops hPc =>
      have hLast := List.append_cancel_left hResult
      cases hLast
      exact Or.inr (Or.inl ⟨by rw [hPc]; trivial, rfl⟩)
  | _ => exact absurd hResult (results_ne_append _ _)

/- Only the caller's steps return from a call. -/
theorem results_of_other
    {s s' : Sender}
    {action : Action}
    (hStep : s.step action = some s')
    (hOther : action ≠ .thread .caller) :
    s'.history.results = s.history.results := by
  cases action with
  | call call =>
      exact (callStep_keeps hStep).results
  | thread thread =>
      cases thread with
      | caller => exact absurd rfl hOther
      | sendHandler => exact (sendHandlerStep_keeps hStep).results
      | recvHandler => exact (recvHandlerStep_keeps hStep).results
      | timeoutHandler =>
          rw [(timeoutHandlerStep_keeps hStep).history]
  | recv result => exact (recvStep_keeps hStep).results
  | timer =>
      rcases Option.map_eq_some_iff.mp hStep with
        ⟨timer, _, rfl⟩
      rfl
  | tick duration =>
      rw [← Option.some.inj hStep]
  | wakeCaller =>
      rw [← Option.some.inj hStep]
      rfl
  | wakeTimer =>
      rw [← Option.some.inj hStep]

open Runs

/-
  In a run that hides no failure, no call returns success
  after one of its packets has used up its retries without
  an acknowledgement.
-/
theorem not_callFailed_of_returnsSuccess
    {config : SenderConfig}
    {s : Sender}
    {action : Action}
    (hReach :
      Reaches step FailureSeen (fresh config) s)
    (hReturns : s.ReturnsSuccess action) :
    ¬ s.CallFailed := by
  have hSeen : FailuresSeen s :=
    hReach.invariant (failuresSeen_fresh config)
      (fun _ _ _ hCurrent hNext hAllowed =>
        failuresSeen_step hCurrent hNext hAllowed)
  rcases hReturns with ⟨s', hStep, hResult⟩
  by_cases hCaller : action = .thread .caller
  · subst hCaller
    rcases results_callerStep hStep hResult with
      ⟨r, hPc, rfl⟩ | ⟨hStop, _⟩ | hCanceled
    · intro hFailed
      apply hSeen.failed hFailed
      refine ⟨r, by rw [hPc]; rfl, Or.inl ?_⟩
      exact succeeds_of_finishStep
        (hSeen.calls.finished r hPc) hResult
    · intro hFailed
      rcases hFailed with ⟨n, hMember, hOwn, _⟩
      have hLess := hSeen.allocated.exhausted n hMember
      rw [← hSeen.originals.length,
        ← hSeen.calls.stopping hStop] at hLess
      exact absurd hLess (not_lt.mpr hOwn)
    · cases hCanceled
  · rw [results_of_other hStep hCaller] at hResult
    exact absurd hResult (results_ne_append _ _)

/- A connection that is acknowledged returns success. -/
theorem not_callFailed_of_returnsSuccess_connect :
    ∃ s,
      Reaches step FailureSeen
        (fresh ⟨1, 0, 1, false, false⟩) s ∧
      s.ReturnsSuccess (.thread .caller) ∧
      ¬ s.CallFailed := by
  have hRun :
      ∃ s,
        Reaches step FailureSeen
          (fresh ⟨1, 0, 1, false, false⟩) s ∧
        s.ReturnsSuccess (.thread .caller) :=
    exists_reaches_of_runActions
      ([Action.call (.connect ⟨0, 1⟩)] ++ steps .caller 10 ++
        steps .sendHandler 13 ++ steps .recvHandler 1 ++
        [Action.recv (.datagram
          (Packet.toBytes ⟨version, .connAck, 1, []⟩)
          ⟨0, 1⟩)] ++
        steps .recvHandler 6 ++ steps .caller 2)
      (by decide +kernel)
  rcases hRun with ⟨s, hReach, hReturns⟩
  exact ⟨s, hReach, hReturns,
    not_callFailed_of_returnsSuccess hReach hReturns⟩

/-
  A disconnection whose request is never acknowledged. Its
  used up retries lead to the idle state, which is the state
  that the call waits for.
-/
theorem exists_callFailed_of_returnsSuccess :
    ∃ s,
      Reaches step (fun _ _ _ => True)
        (fresh ⟨1, 0, 1, false, false⟩) s ∧
      (s.ReturnsSuccess (.thread .caller) ∧
        s.CallFailed) :=
  exists_reaches_of_runActions
    ([Action.call (.connect ⟨0, 1⟩)] ++ steps .caller 10 ++
      steps .sendHandler 13 ++ steps .recvHandler 1 ++
      [Action.recv (.datagram
        (Packet.toBytes ⟨version, .connAck, 1, []⟩)
        ⟨0, 1⟩)] ++
      steps .recvHandler 13 ++ steps .caller 3 ++
      [Action.call .disconnect] ++ steps .caller 10 ++
      steps .sendHandler 13 ++
      [Action.tick 1000000, .timer, .timer, .timer, .timer,
        .timer] ++
      steps .timeoutHandler 8 ++ steps .sendHandler 14 ++
      [Action.timer, .timer] ++
      steps .timeoutHandler 8 ++ steps .sendHandler 14 ++
      steps .caller 2)
    (by decide +kernel)

end Sender

end Nkurdt
