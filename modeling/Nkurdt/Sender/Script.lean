import Nkurdt.Receiver.Client
import Nkurdt.Receiver.ControlState
import Nkurdt.Sender.Transfers

/-
  The script of a session.

  Read in the order of their numbers, the packets of the
  session drive the control automaton through the states
  they are meant for, and a client that is given them writes
  the streams of the calls of `send`, one file for each.

  Main declarations:
    * `controlOf`
    * `Phase.Expects`
    * `Sender.Scripted`
    * `Sender.scripted_step`
-/

------------------------------------------------------------
-- The Automaton on Packets
------------------------------------------------------------

namespace Nkurdt

/- The state that a kind is meant for. -/
def PacketKind.needs : PacketKind → ReceiverState
| .connReq => .idle
| .dataPush => .connected
| .disconnReq => .connected
| _ => .receiving

/- The state behind some packets in order. -/
def controlOf (packets : List Packet) : ReceiverState :=
  packets.foldl
    (fun state packet => controlStep state packet.kind) .idle

@[simp] theorem controlOf_nil : controlOf [] = .idle :=
  rfl

@[simp] theorem controlOf_append_singleton
    (packets : List Packet)
    (packet : Packet) :
    controlOf (packets ++ [packet]) =
      controlStep (controlOf packets) packet.kind := by
  simp [controlOf]

/- Data packets change no state. -/
@[simp] theorem controlStep_data
    (state : ReceiverState) :
    controlStep state .data = state := by
  cases state <;> rfl

end Nkurdt

------------------------------------------------------------
-- Phases of the Script
------------------------------------------------------------

namespace Nkurdt

namespace Phase

/-
  The state behind the packets that have been built, before
  and behind a request, and inside a transfer. Between two
  calls it is the one that the next call needs.
-/
def Expects
    (calls : List Call)
    (state : ReceiverState) : Phase → Prop
| .resting =>
    ∀ (call : Call) (r : Request),
      call.Follows calls → call.phase = .calling r →
        state = r.kind.needs
| .calling r => state = r.kind.needs
| .building r => state = r.kind.needs
| .waiting r =>
    r = .disconnect ∨
      state = controlStep r.kind.needs r.kind
| .answered r =>
    r = .disconnect ∨
      state = controlStep r.kind.needs r.kind
| .reading => state = .receiving
| .chunk _ => state = .receiving
| .draining => state = .receiving
| .drained => state = .receiving
| .undefined => True
| .stopping => True

/- The call in progress is one of the calls made. -/
structure Called
    (calls : List Call)
    (phase : Phase) : Prop where
  runs : phase ≠ .stopping
  made : phase ≠ .resting → calls ≠ []
  leaves :
    phase.request? = some .disconnect →
      ∃ call ∈ calls, call.isDisconnect = true

/- Another phase of the same call. -/
theorem Called.move
    {calls : List Call}
    {phase phase' : Phase}
    (hCalled : phase.Called calls)
    (hInside : phase ≠ .resting)
    (hRuns : phase' ≠ .stopping)
    (hRequest :
      phase'.request? = some .disconnect →
        phase.request? = some .disconnect) :
    phase'.Called calls :=
  ⟨hRuns, fun _ => hCalled.made hInside,
    fun hLeaves => hCalled.leaves (hRequest hLeaves)⟩

/- From the beginning of `send` to its `DataStop`. -/
def inSend : Phase → Bool
| .calling r => r = .push || r = .stop
| .building r => r = .push || r = .stop
| .waiting r => r = .push
| .answered r => r = .push
| .reading => true
| .chunk _ => true
| .draining => true
| .drained => true
| .undefined => true
| _ => false

/- The same call goes on, with the same bytes in hand. -/
structure Continues
    (calls : List Call)
    (phase phase' : Phase) : Prop where
  expects :
    ∀ state, phase.Expects calls state →
      phase'.Expects calls state
  called : phase.Called calls → phase'.Called calls
  inHand : phase'.inHand = phase.inHand
  inSend : phase'.inSend = phase.inSend

theorem Continues.refl
    (calls : List Call)
    (phase : Phase) :
    phase.Continues calls phase :=
  ⟨fun _ hOld => hOld, fun hOld => hOld, rfl, rfl⟩

/- The steps inside a call that build and read nothing. -/
theorem continues_calling
    (calls : List Call)
    (r : Request) :
    (calling r).Continues calls (building r) :=
  ⟨fun _ hOld => hOld,
    fun hOld =>
      hOld.move (fun h => by cases h) (fun h => by cases h)
        (fun hSame => hSame),
    rfl, rfl⟩

theorem continues_waiting
    (calls : List Call)
    (r : Request) :
    (waiting r).Continues calls (answered r) :=
  ⟨fun _ hOld => hOld,
    fun hOld =>
      hOld.move (fun h => by cases h) (fun h => by cases h)
        (fun hSame => hSame),
    rfl, rfl⟩

/- The state between two calls. -/
theorem expects_resting
    {calls : List Call}
    {state : ReceiverState}
    (hMade : calls ≠ [])
    (hState :
      (∃ call ∈ calls, call.isDisconnect = true) ∨
        state = .connected) :
    resting.Expects calls state := by
  intro call r hFollows hPhase
  have hStays :
      (∀ call ∈ calls, call.isDisconnect = false) →
        state = .connected := by
    intro hNone
    apply hState.resolve_left
    rintro ⟨call, hMember, hLeaves⟩
    rw [hNone call hMember] at hLeaves
    cases hLeaves
  cases call with
  | connect addr => exact absurd hFollows hMade
  | send is =>
      cases hPhase
      exact hStays hFollows.2
  | disconnect =>
      cases hPhase
      exact hStays hFollows.2
  | stop => cases hPhase

end Phase

end Nkurdt

------------------------------------------------------------
-- The Invariant
------------------------------------------------------------

namespace Nkurdt

namespace Sender

/- The file that the call in progress has not ended yet. -/
def openFile (s : Sender) : List (List UInt8) :=
  if s.callerPc.phase.inSend then
    [(Client.ofPackets s.history.packets).unread ++
      (s.callerPc.phase.inHand ++ s.stream.content)]
  else
    []

structure Scripted (s : Sender) : Prop where
  kinds :
    ∀ n p, s.Built n p →
      controlOf (s.history.packets.take n) = p.kind.needs
  expects :
    s.callerPc.phase.Expects s.history.calls
      (controlOf s.history.packets)
  called : s.callerPc.phase.Called s.history.calls
  files :
    (Client.ofPackets s.history.packets).files ++
        s.openFile =
      s.history.streams
  closed :
    s.callerPc.phase.inSend = false →
      (Client.ofPackets s.history.packets).unread = []

theorem scripted_fresh
    (config : SenderConfig) :
    Scripted (fresh config) where
  kinds := fun _ _ hBuilt => by cases hBuilt
  expects := by
    intro call r hFollows hPhase
    cases call with
    | connect addr =>
        cases hPhase
        rfl
    | send is => exact absurd rfl hFollows.1
    | disconnect => exact absurd rfl hFollows.1
    | stop => cases hPhase
  called :=
    ⟨(fun hPhase => by cases hPhase),
      fun hPhase => absurd rfl hPhase,
      fun hRequest => by cases hRequest⟩
  files := rfl
  closed := fun _ => rfl

/- A step that builds no packet and reads no byte. -/
theorem Scripted.congr
    {s s' : Sender}
    (hScripted : Scripted s)
    (hPackets : s'.history.packets = s.history.packets)
    (hCalls : s'.history.calls = s.history.calls)
    (hStream : s'.stream = s.stream)
    (hPhase :
      s.callerPc.phase.Continues s.history.calls
        s'.callerPc.phase) :
    Scripted s' := by
  refine
    { kinds := ?_
      expects := ?_
      called := ?_
      files := ?_
      closed := ?_ }
  · unfold Built
    rw [hPackets]
    exact hScripted.kinds
  · rw [hPackets, hCalls]
    exact hPhase.expects _ hScripted.expects
  · rw [hCalls]
    exact hPhase.called hScripted.called
  · unfold openFile History.streams
    rw [hPackets, hCalls, hStream, hPhase.inHand,
      hPhase.inSend]
    exact hScripted.files
  · rw [hPackets, hPhase.inSend]
    exact hScripted.closed

end Sender

end Nkurdt

------------------------------------------------------------
-- Steps
------------------------------------------------------------

namespace Nkurdt

namespace Sender

/- A packet is built in the state it is meant for. -/
theorem scripted_builds
    {s s' : Sender}
    {t : Transfer}
    {seq : Nat}
    (hScripted : Scripted s)
    (hStreamed : Streamed s)
    (hOriginals : Originals s)
    (hBefore : s.callerPc = .updateUpper t seq)
    (hAfter : s'.callerPc = .lockPool t seq)
    (hPackets :
      s'.history.packets =
        s.history.packets ++ [t.packet seq])
    (hCalls : s'.history.calls = s.history.calls)
    (hStream : s'.stream = s.stream) :
    Scripted s' := by
  have hExpects := hScripted.expects
  have hCalled := hScripted.called
  have hFiles := hScripted.files
  have hClosed := hScripted.closed
  have hUnread := hStreamed.unread
  unfold openFile at hFiles
  rw [hBefore] at hExpects hCalled hFiles hClosed hUnread
  have hNeeds :
      controlOf s.history.packets = t.kind.needs := by
    cases t <;> exact hExpects
  refine
    { kinds := ?_
      expects := ?_
      called := ?_
      files := ?_
      closed := ?_ }
  · intro n p hBuilt
    rw [hPackets]
    rcases built_of_append hPackets hBuilt with
      hOld | ⟨hNumber, hPacket⟩
    · have hLess := hOriginals.lt_upperBound hOld
      rw [← hOriginals.length] at hLess
      rw [List.take_append_of_le_length hLess.le]
      exact hScripted.kinds n p hOld
    · rw [hNumber, hPacket, List.take_left]
      exact hNeeds
  · rw [hAfter, hPackets, controlOf_append_singleton,
      hNeeds]
    cases t with
    | request r => exact Or.inr rfl
    | data payload => rfl
  · rw [hAfter, hCalls]
    refine ⟨fun hPhase => ?_, fun _ => ?_, ?_⟩
    · cases t <;> cases hPhase
    · apply hCalled.made
      cases t <;> exact fun hPhase => by cases hPhase
    · intro hRequest
      apply hCalled.leaves
      cases t <;> exact hRequest
  · unfold openFile History.streams at *
    rw [hPackets, hCalls, hStream, hAfter, ← hFiles,
      Client.ofPackets_append_singleton]
    cases t with
    | data payload =>
        simp [CallerPc.phase, Transfer.before,
          Transfer.behind, Phase.inSend, Phase.inHand,
          Client.deliver, Client.observe, Transfer.packet,
          Transfer.kind, Transfer.payload]
    | request r =>
        cases r
        all_goals simp [CallerPc.phase, Transfer.before,
          Transfer.behind, Phase.inSend, Phase.inHand,
          Client.deliver, Client.observe, Transfer.packet,
          Transfer.kind, Transfer.payload, Request.kind]
        -- The stream has been read to its end.
        exact hUnread (fun hStreams => by cases hStreams)
  · intro hNow
    rw [hAfter] at hNow
    rw [hPackets, Client.ofPackets_append_singleton]
    cases t with
    | data payload => cases hNow
    | request r =>
        cases r with
        | push => cases hNow
        | stop => rfl
        | connect | disconnect =>
            exact (List.append_nil _).trans (hClosed rfl)

theorem scripted_callerStep
    {s s' : Sender}
    (hScripted : Scripted s)
    (hStreamed : Streamed s)
    (hOriginals : Originals s)
    (hAnswering : Answering s)
    (hRunning : s.running = true)
    (hStep : s.callerStep = some s') :
    Scripted s' := by
  have hCalls := (callFirst_callerStep hStep).2
  have hExpects := hScripted.expects
  have hCalled := hScripted.called
  have hSame :
      CallSame s s' →
      s.callerPc.phase.Continues s.history.calls
        s'.callerPc.phase →
        Scripted s' :=
    fun hSame hPhase =>
      hScripted.congr hSame.packets hCalls hSame.stream
        hPhase
  cases callerMove_callerStep hStep with
  | stays hPhase hCallSame =>
      apply hSame hCallSame
      rw [hPhase]
      exact .refl _ _
  | enters r hBefore hAfter _ _ hPackets _ hStream =>
      apply hScripted.congr hPackets hCalls hStream
      rw [hBefore, hAfter]
      exact Phase.continues_calling _ r
  | skips hBefore hAfter _ hCallSame =>
      apply hSame hCallSame
      rw [hBefore, hAfter]
      refine
        ⟨fun _ _ => Or.inl rfl, fun hOld => ?_, rfl, rfl⟩
      exact hOld.move (fun h => by cases h)
        (fun h => by cases h) (fun hLeaves => hLeaves)
  | builds t seq hBefore hAfter _ _ hPackets _ hStream =>
      exact scripted_builds hScripted hStreamed hOriginals
        hBefore hAfter hPackets hCalls hStream
  | abandons _ _ _ hStopped
  | cancels _ _ hStopped =>
      rw [hRunning] at hStopped
      cases hStopped
  | finishes r hBefore hAfter _ hCallSame =>
      apply hSame hCallSame
      rw [hBefore, hAfter]
      exact Phase.continues_waiting _ r
  | returns r hBefore hAfter hFailed hCallSame =>
      have hNotPush := hAnswering.ne_push hBefore hFailed
      apply hSame hCallSame
      rw [hBefore] at hCalled ⊢
      rw [hAfter]
      refine ⟨?_, fun _ => ?_, rfl, ?_⟩
      · intro state hOld
        apply Phase.expects_resting
          (hCalled.made (fun h => by cases h))
        cases r with
        | disconnect => exact Or.inl (hCalled.leaves rfl)
        | push => exact absurd rfl hNotPush
        | connect | stop =>
            exact Or.inr
              (hOld.resolve_left (fun h => by cases h))
      · exact ⟨(fun h => by cases h),
          (fun hOther => absurd rfl hOther),
          fun h => by cases h⟩
      · cases r
        case push => exact absurd rfl hNotPush
        all_goals rfl
  | opens hBefore hAfter hCallSame =>
      apply hSame hCallSame
      rw [hBefore, hAfter]
      refine ⟨fun _ hOld => ?_, fun hOld => ?_, rfl, rfl⟩
      · exact hOld.resolve_left (fun h => by cases h)
      · exact hOld.move (fun h => by cases h)
          (fun h => by cases h) (fun h => by cases h)
  | reads hBefore hAfter _ _ hPackets _ hStream =>
      have hFiles := hScripted.files
      unfold openFile at hFiles
      rw [hBefore] at hExpects hCalled hFiles
      refine
        { kinds := ?_
          expects := ?_
          called := ?_
          files := ?_
          closed := ?_ }
      · unfold Built
        rw [hPackets]
        exact hScripted.kinds
      · rw [hAfter, hPackets]
        exact hExpects
      · rw [hAfter, hCalls]
        exact hCalled.move (fun h => by cases h)
          (fun h => by cases h) (fun h => by cases h)
      · unfold openFile History.streams at *
        rw [hPackets, hCalls, hStream, hAfter, ← hFiles]
        have hRead := s.stream.read_append maxPayloadSize
        simp only [Phase.inSend, Phase.inHand, if_true,
          List.nil_append, hRead]
      · rw [hAfter]
        exact fun hNow => by cases hNow
  | ends hBefore hAfter _ hCallSame
  | drains hBefore hAfter _ hCallSame
  | stops hBefore hAfter hCallSame =>
      apply hSame hCallSame
      rw [hBefore, hAfter]
      refine ⟨fun _ hOld => hOld, fun hOld => ?_, rfl, rfl⟩
      exact hOld.move (fun h => by cases h)
        (fun h => by cases h) (fun h => by cases h)
  | divides hBefore hAfter hCallSame =>
      apply hSame hCallSame
      rw [hBefore, hAfter]
      refine ⟨fun _ _ => trivial, fun hOld => ?_, rfl, rfl⟩
      exact hOld.move (fun h => by cases h)
        (fun h => by cases h) (fun h => by cases h)
  | quits hBefore hAfter hCallSame =>
      exact absurd hBefore hCalled.runs

/- A call begins in the state that it needs. -/
theorem scripted_callStep
    {s s' : Sender}
    {call : Call}
    (hScripted : Scripted s)
    (hStep : s.callStep call = some s')
    (hFollows : call.Follows s.history.calls) :
    Scripted s' := by
  have hBegins := callBegins_callStep hStep
  have hExpects := hScripted.expects
  have hFiles := hScripted.files
  have hClosed := hScripted.closed
  unfold openFile at hFiles
  rw [hBegins.resting] at hExpects hFiles hClosed
  have hUnread := hClosed rfl
  have hOld :
      (Client.ofPackets s.history.packets).files =
        s.history.streams :=
    (List.append_nil _).symm.trans hFiles
  have hStreams := History.streams_append s.history call
  refine
    { kinds := ?_
      expects := ?_
      called := ?_
      files := ?_
      closed := ?_ }
  · unfold Built
    rw [hBegins.packets]
    exact hScripted.kinds
  · rw [hBegins.phase, hBegins.packets]
    cases call with
    | stop => exact hFollows.elim
    | connect addr => exact hExpects _ _ hFollows rfl
    | send is => exact hExpects _ _ hFollows rfl
    | disconnect => exact hExpects _ _ hFollows rfl
  · rw [hBegins.phase, hBegins.calls]
    refine ⟨?_, fun _ => ?_, fun hRequest => ?_⟩
    · cases call
      case stop => exact hFollows.elim
      all_goals exact fun hPhase => by cases hPhase
    · exact List.append_ne_nil_of_right_ne_nil _
        (List.cons_ne_nil _ _)
    · cases call with
      | disconnect =>
          exact ⟨.disconnect, List.mem_append_right _
            (List.mem_singleton_self _), rfl⟩
      | connect addr => cases hRequest
      | send is => cases hRequest
      | stop => cases hRequest
  · unfold openFile History.streams at *
    dsimp only at hStreams
    rw [hBegins.packets, hBegins.calls, hBegins.phase,
      hBegins.stream, hStreams, hOld, hUnread]
    cases call
    case stop => exact hFollows.elim
    all_goals rfl
  · rw [hBegins.packets]
    exact fun _ => hUnread

/- Every step of a session goes by the script. -/
theorem scripted_step
    {s s' : Sender}
    {action : Action}
    (hScripted : Scripted s)
    (hStreamed : Streamed s)
    (hOriginals : Originals s)
    (hAnswering : Answering s)
    (hRunning : s.running = true)
    (hStep : s.step action = some s')
    (hFollows :
      ∀ call, action = .call call →
        call.Follows s.history.calls) :
    Scripted s' := by
  by_cases hCall : ∃ call, action = .call call
  · rcases hCall with ⟨call, rfl⟩
    exact scripted_callStep hScripted hStep
      (hFollows call rfl)
  by_cases hCaller : action = .thread .caller
  · subst hCaller
    exact scripted_callerStep hScripted hStreamed
      hOriginals hAnswering hRunning hStep
  · have hKept :=
      callKept_step hStep
        (fun call hEqual => hCall ⟨call, hEqual⟩) hCaller
    apply hScripted.congr hKept.packets hKept.calls
      hKept.stream
    rw [phase_of_wake hKept.callerPc]
    exact .refl _ _

end Sender

end Nkurdt
