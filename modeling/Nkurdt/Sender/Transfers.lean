import Nkurdt.Sender.Calls
import Nkurdt.Sender.WindowMoves

/-
  The calls of a session and the packets they build.

  The bytes of the streams passed to `send` are in the
  packets that have been built, in the chunk that is about
  to be, or still in the stream, in this order. The first
  packet of a session is its connection request, and it is
  alone until the connection is answered. The window holds
  no more packets than it is configured for.

  Main declarations:
    * `Call.Follows`
    * `Sender.Streamed`
    * `Sender.Opening`
    * `Sender.NeverDisconnects`
    * `Sender.Windowed`
-/

------------------------------------------------------------
-- Sequences of Calls
------------------------------------------------------------

namespace Nkurdt

namespace Call

def isDisconnect : Call → Bool
| .disconnect => true
| _ => false

/-
  The calls of a session: one `connect`, then any number of
  `send`, then at most one `disconnect`.
-/
def Follows (calls : List Call) : Call → Prop
| .connect _ => calls = []
| .send _ =>
    calls ≠ [] ∧ ∀ call ∈ calls, call.isDisconnect = false
| .disconnect =>
    calls ≠ [] ∧ ∀ call ∈ calls, call.isDisconnect = false
| .stop => False

instance (calls : List Call) (call : Call) :
    Decidable (call.Follows calls) := by
  have hEmpty : Decidable (calls = []) :=
    decidable_of_iff (calls.isEmpty = true)
      List.isEmpty_iff
  rcases call with ⟨⟩ | ⟨⟩ | _ | _
  all_goals
    unfold Follows
    infer_instance

end Call

end Nkurdt

------------------------------------------------------------
-- Bytes of the Streams
------------------------------------------------------------

namespace Nkurdt

namespace Phase

/- The bytes that go into the packet that is built next. -/
def inHand : Phase → List UInt8
| .chunk payload => payload
| _ => []

/- The call has not come to the end of its stream. -/
def Streams : Phase → Prop
| .calling r => r = .push
| .building r => r = .push
| .waiting r => r = .push
| .answered r => r = .push
| .reading => True
| .chunk _ => True
| _ => False

end Phase

theorem History.streams_append
    (history : History)
    (call : Call) :
    { history with
        calls := history.calls ++ [call] }.streams =
      history.streams ++
        (call.stream?.map IStream.content).toList := by
  unfold streams
  dsimp only
  rw [List.filterMap_append]
  cases call <;> rfl

namespace Sender

structure Streamed (s : Sender) : Prop where
  sum :
    s.history.packets.flatMap Packet.payload ++
        (s.callerPc.phase.inHand ++ s.stream.content) =
      s.history.streams.flatten
  unread :
    ¬ s.callerPc.phase.Streams → s.stream.content = []

theorem streamed_fresh
    (config : SenderConfig) :
    Streamed (fresh config) :=
  ⟨rfl, fun _ => rfl⟩

/- A step that builds no packet and reads no byte. -/
theorem Streamed.congr
    {s s' : Sender}
    (hStreamed : Streamed s)
    (hPackets : s'.history.packets = s.history.packets)
    (hCalls : s'.history.calls = s.history.calls)
    (hStream : s'.stream = s.stream)
    (hInHand :
      s'.callerPc.phase.inHand = s.callerPc.phase.inHand)
    (hUnread :
      ¬ s'.callerPc.phase.Streams →
        s.stream.content = []) :
    Streamed s' := by
  refine ⟨?_, ?_⟩
  · unfold History.streams
    rw [hPackets, hCalls, hStream, hInHand]
    exact hStreamed.sum
  · rw [hStream]
    exact hUnread

/- A packet takes over the bytes that were in hand. -/
theorem streamed_builds
    {s s' : Sender}
    {t : Transfer}
    {seq : Nat}
    (hStreamed : Streamed s)
    (hBefore : s.callerPc = .updateUpper t seq)
    (hAfter : s'.callerPc = .lockPool t seq)
    (hPackets :
      s'.history.packets =
        s.history.packets ++ [t.packet seq])
    (hCalls : s'.history.calls = s.history.calls)
    (hStream : s'.stream = s.stream) :
    Streamed s' := by
  have hSum := hStreamed.sum
  have hUnread := hStreamed.unread
  rw [hBefore] at hSum hUnread
  refine ⟨?_, ?_⟩
  · unfold History.streams at hSum ⊢
    rw [hPackets, hCalls, hStream, hAfter, ← hSum,
      List.flatMap_append, List.flatMap_singleton,
      List.append_assoc]
    cases t <;> rfl
  · rw [hStream, hAfter]
    intro hNot
    apply hUnread
    cases t
    · exact hNot
    · exact absurd trivial hNot

theorem streamed_callerStep
    {s s' : Sender}
    (hStreamed : Streamed s)
    (hAnswering : Answering s)
    (hRunning : s.running = true)
    (hStep : s.callerStep = some s') :
    Streamed s' := by
  have hCalls := (callFirst_callerStep hStep).2
  have hUnread := hStreamed.unread
  have hSame :
      CallSame s s' →
      s'.callerPc.phase.inHand = s.callerPc.phase.inHand →
      (¬ s'.callerPc.phase.Streams →
        s.stream.content = []) →
        Streamed s' :=
    fun hSame hInHand hNot =>
      hStreamed.congr hSame.packets hCalls hSame.stream
        hInHand hNot
  cases callerMove_callerStep hStep with
  | stays hPhase hCallSame =>
      apply hSame hCallSame (by rw [hPhase])
      rw [hPhase]
      exact hUnread
  | enters r hBefore hAfter _ _ hPackets _ hStream =>
      apply hStreamed.congr hPackets hCalls hStream
      · rw [hBefore, hAfter]
        rfl
      · rw [hBefore] at hUnread
        rw [hAfter]
        exact hUnread
  | skips hBefore hAfter _ hCallSame =>
      rw [hBefore] at hUnread
      apply hSame hCallSame
      · rw [hBefore, hAfter]
        rfl
      · rw [hAfter]
        exact hUnread
  | builds t seq hBefore hAfter _ _ hPackets _ hStream =>
      exact streamed_builds hStreamed hBefore hAfter hPackets
        hCalls hStream
  | abandons t _ _ hStopped =>
      rw [hRunning] at hStopped
      cases hStopped
  | finishes r hBefore hAfter _ hCallSame =>
      rw [hBefore] at hUnread
      apply hSame hCallSame
      · rw [hBefore, hAfter]
        rfl
      · rw [hAfter]
        exact hUnread
  | returns r hBefore hAfter hFailed hCallSame =>
      rw [hBefore] at hUnread
      apply hSame hCallSame
      · rw [hBefore, hAfter]
        rfl
      · intro _
        exact hUnread (hAnswering.ne_push hBefore hFailed)
  | opens hBefore hAfter hCallSame =>
      apply hSame hCallSame
      · rw [hBefore, hAfter]
        rfl
      · rw [hAfter]
        exact fun hNot => absurd trivial hNot
  | reads hBefore hAfter _ _ hPackets _ hStream =>
      have hSum := hStreamed.sum
      rw [hBefore] at hSum
      refine ⟨?_, ?_⟩
      · unfold History.streams at hSum ⊢
        rw [hPackets, hCalls, hStream, hAfter, ← hSum]
        exact congrArg _
          (s.stream.read_append maxPayloadSize)
      · rw [hAfter]
        exact fun hNot => absurd trivial hNot
  | ends hBefore hAfter hFailed hCallSame =>
      apply hSame hCallSame
      · rw [hBefore, hAfter]
        rfl
      · exact fun _ => s.stream.drained hFailed
  | drains hBefore hAfter _ hCallSame
  | cancels hBefore hAfter _ hCallSame
  | stops hBefore hAfter hCallSame
  | divides hBefore hAfter hCallSame
  | quits hBefore hAfter hCallSame =>
      rw [hBefore] at hUnread
      apply hSame hCallSame
      · rw [hBefore, hAfter]
        rfl
      · exact fun _ => hUnread id

/- Every step keeps the bytes of the streams together. -/
theorem streamed_step
    {s s' : Sender}
    {action : Action}
    (hStreamed : Streamed s)
    (hAnswering : Answering s)
    (hRunning : s.running = true)
    (hStep : s.step action = some s') :
    Streamed s' := by
  by_cases hCall : ∃ call, action = .call call
  · rcases hCall with ⟨call, rfl⟩
    have hBegins := callBegins_callStep hStep
    have hSum := hStreamed.sum
    have hUnread := hStreamed.unread
    rw [hBegins.resting] at hSum hUnread
    have hEmpty : s.stream.content = [] :=
      hUnread (fun h => h)
    rw [hEmpty] at hSum
    refine ⟨?_, ?_⟩
    · have hStreams :=
        History.streams_append s.history call
      unfold History.streams at hStreams hSum ⊢
      dsimp only at hStreams
      rw [hBegins.packets, hBegins.calls, hBegins.phase,
        hBegins.stream, hStreams, List.flatten_append,
        ← hSum, List.append_assoc]
      cases call
      all_goals simp [Call.phase, Phase.inHand,
        Call.stream?, hEmpty, CallerPc.phase]
    · rw [hBegins.phase, hBegins.stream]
      intro hNot
      cases call
      case send is => exact absurd rfl hNot
      all_goals exact hEmpty
  by_cases hCaller : action = .thread .caller
  · subst hCaller
    exact streamed_callerStep hStreamed hAnswering hRunning
      hStep
  · have hKept :=
      callKept_step hStep
        (fun call hEqual => hCall ⟨call, hEqual⟩) hCaller
    have hPhase := phase_of_wake hKept.callerPc
    apply hStreamed.congr hKept.packets hKept.calls
      hKept.stream (by rw [hPhase])
    rw [hPhase]
    exact hStreamed.unread

end Sender

end Nkurdt

------------------------------------------------------------
-- Before the First Acknowledgement
------------------------------------------------------------

namespace Nkurdt

namespace Sender

/-
  A session whose connection has not been answered: at most
  the connection request has been built.
-/
inductive Opening (s : Sender) : Prop
| resting
    (hPhase : s.callerPc.phase = .resting)
    (hCalls : s.history.calls = [])
    (hPackets : s.history.packets = [])
| calling
    (hPhase : s.callerPc.phase = .calling .connect)
    (hCalls : s.history.calls ≠ [])
    (hPackets : s.history.packets = [])
| building
    (hPhase : s.callerPc.phase = .building .connect)
    (hCalls : s.history.calls ≠ [])
    (hPackets : s.history.packets = [])
    (hState : s.state = .connecting)
| waiting
    (hPhase : s.callerPc.phase = .waiting .connect)
    (hCalls : s.history.calls ≠ [])
    (hPackets :
      s.history.packets =
        [(Transfer.request .connect).packet 0])
    (hState : s.state = .connecting)

/- A step that goes on with the same phase and packets. -/
theorem Opening.congr
    {s s' : Sender}
    (hOpening : Opening s)
    (hPhase : s'.callerPc.phase = s.callerPc.phase)
    (hCalls : s'.history.calls = s.history.calls)
    (hPackets : s'.history.packets = s.history.packets)
    (hState : s'.state = s.state) :
    Opening s' := by
  cases hOpening with
  | resting hOld hNone hEmpty =>
      exact .resting (hPhase.trans hOld)
        (hCalls.trans hNone) (hPackets.trans hEmpty)
  | calling hOld hSome hEmpty =>
      exact .calling (hPhase.trans hOld)
        (hCalls ▸ hSome) (hPackets.trans hEmpty)
  | building hOld hSome hEmpty hConnecting =>
      exact .building (hPhase.trans hOld)
        (hCalls ▸ hSome) (hPackets.trans hEmpty)
        (hState.trans hConnecting)
  | waiting hOld hSome hFirst hConnecting =>
      exact .waiting (hPhase.trans hOld)
        (hCalls ▸ hSome) (hPackets.trans hFirst)
        (hState.trans hConnecting)

/-
  Without used up retries only the caller and
  `recv_handler` set the state.
-/
theorem state_of_other
    {s s' : Sender}
    {action : Action}
    (hAnswering : Answering s)
    (hStep : s.step action = some s')
    (hCaller : action ≠ .thread .caller)
    (hRecv : action ≠ .thread .recvHandler) :
    s'.state = s.state := by
  cases action with
  | call call => exact (callBegins_callStep hStep).state
  | thread thread =>
      cases thread with
      | caller => exact absurd rfl hCaller
      | recvHandler => exact absurd rfl hRecv
      | sendHandler =>
          rcases state_sendHandlerStep hStep with
            hSame | ⟨⟨seq, hPc⟩, _⟩
          · exact hSame
          · apply absurd ?_ hAnswering.sending
            rw [hPc]
            trivial
      | timeoutHandler =>
          exact (timeoutHandlerStep_keeps hStep).state
  | timer =>
      rcases Option.map_eq_some_iff.mp hStep with
        ⟨timer, _, rfl⟩
      rfl
  | recv result => exact (recvStep_keeps hStep).state
  | tick duration =>
      rw [← Option.some.inj hStep]
  | wakeCaller =>
      rw [← Option.some.inj hStep]
      rfl
  | wakeTimer =>
      rw [← Option.some.inj hStep]

/- And only the caller without an acknowledgement. -/
theorem state_of_silent
    {s s' : Sender}
    {action : Action}
    (hAnswering : Answering s)
    (hSilent : s.recvPc.target? = none)
    (hStep : s.step action = some s')
    (hCaller : action ≠ .thread .caller) :
    s'.state = s.state := by
  by_cases hRecv : action = .thread .recvHandler
  · subst hRecv
    rcases (target_recvHandlerStep hStep).1 with
      hSame | ⟨_, hTarget⟩
    · exact hSame
    · rw [hSilent] at hTarget
      cases hTarget
  · exact state_of_other hAnswering hStep hCaller hRecv

theorem opening_callerStep
    {s s' : Sender}
    (hOpening : Opening s)
    (hOriginals : Originals s)
    (hRunning : s.running = true)
    (hStep : s.callerStep = some s') :
    Opening s' := by
  have hCalls := (callFirst_callerStep hStep).2
  -- The phases of a session that is being opened.
  have hPhases :
      s.callerPc.phase = .resting ∨
        s.callerPc.phase = .calling .connect ∨
        s.callerPc.phase = .building .connect ∨
        s.callerPc.phase = .waiting .connect := by
    cases hOpening with
    | resting hPhase => exact Or.inl hPhase
    | calling hPhase => exact Or.inr (Or.inl hPhase)
    | building hPhase =>
        exact Or.inr (Or.inr (Or.inl hPhase))
    | waiting hPhase =>
        exact Or.inr (Or.inr (Or.inr hPhase))
  cases callerMove_callerStep hStep with
  | stays hPhase hSame =>
      exact hOpening.congr hPhase hCalls hSame.packets
        hSame.state
  | enters r hBefore hAfter hState _ hPackets =>
      cases hOpening with
      | resting hPhase
      | building hPhase
      | waiting hPhase =>
          rw [hPhase] at hBefore
          cases hBefore
      | calling hPhase hSome hEmpty =>
          rw [hPhase] at hBefore
          cases hBefore
          exact .building hAfter (hCalls ▸ hSome)
            (hPackets.trans hEmpty) hState
  | builds t seq hBefore hAfter hState _ hPackets =>
      have hSeq := hOriginals.reserved t seq hBefore
      have hLength := hOriginals.length
      cases hOpening with
      | resting hPhase | calling hPhase | waiting hPhase =>
          rw [hBefore] at hPhase
          cases t <;> cases hPhase
      | building hPhase hSome hEmpty hConnecting =>
          rw [hBefore] at hPhase
          cases t with
          | data payload => cases hPhase
          | request r =>
              cases hPhase
              rw [hEmpty] at hLength
              refine .waiting (by rw [hAfter]; rfl)
                (hCalls ▸ hSome) ?_
                (hState.trans hConnecting)
              rw [hPackets, hEmpty, hSeq, ← hLength]
              rfl
  | abandons _ _ _ hStopped =>
      rw [hRunning] at hStopped
      cases hStopped
  | skips hBefore
  | returns _ hBefore
  | opens hBefore
  | reads hBefore
  | ends hBefore
  | drains hBefore
  | cancels hBefore
  | stops hBefore
  | divides hBefore
  | quits hBefore =>
      rw [hBefore] at hPhases
      rcases hPhases with hNow | hNow | hNow | hNow
      all_goals cases hNow
  | finishes r hBefore _ hDone =>
      cases hOpening with
      | resting hPhase
      | calling hPhase
      | building hPhase =>
          rw [hPhase] at hBefore
          cases hBefore
      | waiting hPhase _ _ hConnecting =>
          rw [hPhase] at hBefore
          cases hBefore
          rw [hConnecting] at hDone
          exact absurd hDone
            (Request.not_done_waiting .connect)

/- The session stays unopened until it is answered. -/
theorem opening_step
    {s s' : Sender}
    {action : Action}
    (hOpening : Opening s)
    (hOriginals : Originals s)
    (hAnswering : Answering s)
    (hRunning : s.running = true)
    (hSilent : s.recvPc.target? = none)
    (hStep : s.step action = some s')
    (hFollows :
      ∀ call, action = .call call →
        call.Follows s.history.calls) :
    Opening s' := by
  by_cases hCaller : action = .thread .caller
  · subst hCaller
    exact opening_callerStep hOpening hOriginals hRunning
      hStep
  have hState :=
    state_of_silent hAnswering hSilent hStep hCaller
  by_cases hCall : ∃ call, action = .call call
  · rcases hCall with ⟨call, rfl⟩
    have hBegins := callBegins_callStep hStep
    have hNow := hFollows call rfl
    have hMade : s'.history.calls ≠ [] := by
      rw [hBegins.calls]
      exact List.append_ne_nil_of_right_ne_nil _
        (List.cons_ne_nil _ _)
    cases hOpening with
    | resting hPhase hNone hEmpty =>
        rw [hNone] at hNow
        cases call with
        | connect addr =>
            exact .calling hBegins.phase hMade
              (hBegins.packets.trans hEmpty)
        | send is => exact absurd rfl hNow.1
        | disconnect => exact absurd rfl hNow.1
        | stop => exact hNow.elim
    | calling hPhase | building hPhase | waiting hPhase =>
        rw [hBegins.resting] at hPhase
        cases hPhase
  · have hKept :=
      callKept_step hStep
        (fun call hEqual => hCall ⟨call, hEqual⟩) hCaller
    exact hOpening.congr (phase_of_wake hKept.callerPc)
      hKept.calls hKept.packets hState

end Sender

end Nkurdt

------------------------------------------------------------
-- Without a Disconnection
------------------------------------------------------------

namespace Nkurdt

/- The request that a call is about. -/
def Phase.request? : Phase → Option Request
| .calling r => some r
| .building r => some r
| .waiting r => some r
| .answered r => some r
| _ => none

namespace Sender

/- No call of the session disconnects. -/
structure NeverDisconnects (s : Sender) : Prop where
  phase : s.callerPc.phase.request? ≠ some .disconnect
  kinds :
    ∀ p ∈ s.history.packets, p.kind ≠ .disconnReq

theorem neverDisconnects_fresh
    (config : SenderConfig) :
    NeverDisconnects (fresh config) := by
  refine ⟨fun hRequest => ?_, fun _ hMember => ?_⟩
  · cases hRequest
  · cases hMember

theorem neverDisconnects_callerStep
    {s s' : Sender}
    (hNever : NeverDisconnects s)
    (hStep : s.callerStep = some s') :
    NeverDisconnects s' := by
  have hPhase := hNever.phase
  have hSame :
      s'.history.packets = s.history.packets →
      s'.callerPc.phase.request? ≠ some .disconnect →
        NeverDisconnects s' := by
    intro hPackets hNext
    refine ⟨hNext, ?_⟩
    rw [hPackets]
    exact hNever.kinds
  cases callerMove_callerStep hStep with
  | stays hEqual hCallSame =>
      apply hSame hCallSame.packets
      rw [hEqual]
      exact hPhase
  | enters r hBefore hAfter _ _ hPackets =>
      rw [hBefore] at hPhase
      apply hSame hPackets
      rw [hAfter]
      exact hPhase
  | skips hBefore =>
      rw [hBefore] at hPhase
      exact absurd rfl hPhase
  | builds t seq hBefore hAfter _ _ hPackets =>
      rw [hBefore] at hPhase
      refine ⟨?_, ?_⟩
      · rw [hAfter]
        cases t with
        | request r => exact hPhase
        | data payload => exact fun hNone => by cases hNone
      · intro p hMember
        rw [hPackets] at hMember
        rcases List.mem_append.mp hMember with hOld | hNew
        · exact hNever.kinds p hOld
        · rw [List.mem_singleton.mp hNew]
          intro hKind
          cases t with
          | request r =>
              cases r
              case disconnect => exact hPhase rfl
              all_goals cases hKind
          | data payload => cases hKind
  | abandons t hBefore hAfter _ hCallSame =>
      rw [hBefore] at hPhase
      apply hSame hCallSame.packets
      rw [hAfter]
      cases t with
      | request r => exact hPhase
      | data payload => exact fun hNone => by cases hNone
  | finishes r hBefore hAfter _ hCallSame =>
      rw [hBefore] at hPhase
      apply hSame hCallSame.packets
      rw [hAfter]
      exact hPhase
  | returns _ _ hAfter _ hCallSame
  | opens _ hAfter hCallSame
  | ends _ hAfter _ hCallSame
  | drains _ hAfter _ hCallSame
  | cancels _ hAfter _ hCallSame
  | stops _ hAfter hCallSame
  | divides _ hAfter hCallSame
  | quits _ hAfter hCallSame =>
      apply hSame hCallSame.packets
      rw [hAfter]
      exact fun hNone => by cases hNone
  | reads _ hAfter _ _ hPackets =>
      apply hSame hPackets
      rw [hAfter]
      exact fun hNone => by cases hNone

theorem neverDisconnects_step
    {s s' : Sender}
    {action : Action}
    (hNever : NeverDisconnects s)
    (hStep : s.step action = some s')
    (hCall : action ≠ .call .disconnect) :
    NeverDisconnects s' := by
  by_cases hCaller : action = .thread .caller
  · subst hCaller
    exact neverDisconnects_callerStep hNever hStep
  by_cases hBegins : ∃ call, action = .call call
  · rcases hBegins with ⟨call, rfl⟩
    have hNext := callBegins_callStep hStep
    refine ⟨?_, ?_⟩
    · rw [hNext.phase]
      intro hRequest
      cases call
      case disconnect => exact hCall rfl
      all_goals cases hRequest
    · rw [hNext.packets]
      exact hNever.kinds
  · have hKept :=
      callKept_step hStep
        (fun call hEqual => hBegins ⟨call, hEqual⟩) hCaller
    refine ⟨?_, ?_⟩
    · rw [phase_of_wake hKept.callerPc]
      exact hNever.phase
    · rw [hKept.packets]
      exact hNever.kinds

end Sender

end Nkurdt

------------------------------------------------------------
-- The Size of the Window
------------------------------------------------------------

namespace Nkurdt

/- The window has been found available for a new packet. -/
def CallerPc.HasRoom : CallerPc → Prop
| .upperBound _ => True
| .updateUpper _ _ => True
| _ => False

namespace Sender

/- The window holds at most the packets configured for it. -/
structure Windowed (s : Sender) : Prop where
  size :
    s.window.upperBound ≤
      s.window.lowerBound + s.window.maxWindowSize
  room :
    s.callerPc.HasRoom →
      s.window.upperBound <
        s.window.lowerBound + s.window.maxWindowSize

theorem windowed_fresh
    (config : SenderConfig) :
    Windowed (fresh config) :=
  ⟨Nat.zero_le _, fun hRoom => hRoom.elim⟩

/- An available window has room for a packet. -/
theorem room_of_available
    {w : ConcurrentWindow}
    (hBounds : w.lowerBound ≤ w.upperBound)
    (hUpper : w.upperBound < 2 ^ 32)
    (hAvailable : w.Available) :
    w.upperBound < w.lowerBound + w.maxWindowSize := by
  have hDifference :
      w.upperBound - w.lowerBound <
        w.maxWindowSize % 2 ^ 32 := by
    rw [← SequenceNumber.sub_of_le hBounds hUpper]
    exact hAvailable
  have hSize := Nat.mod_le w.maxWindowSize (2 ^ 32)
  omega

/- How the caller gets to know that there is room. -/
theorem hasRoom_callerStep
    {s s' : Sender}
    (hStep : s.callerStep = some s')
    (hRoom : s'.callerPc.HasRoom) :
    s'.window.upperBound = s.window.upperBound ∧
      (s.callerPc.HasRoom ∨ s.window.Available) := by
  cases callerStep_branch hStep with
  | findsRoom _ _ hAvailable =>
      exact ⟨rfl, Or.inr hAvailable⟩
  | readsUpper hPc =>
      rw [hPc]
      exact ⟨rfl, Or.inl trivial⟩
  | @abandons t | @unlocksPool t =>
      cases t <;> exact hRoom.elim
  | _ => exact hRoom.elim

/- The caller adds a packet only where there is room. -/
theorem windowed_step
    {s s' : Sender}
    {action : Action}
    (hWindowed : Windowed s)
    (hBounds : s.window.lowerBound ≤ s.window.upperBound)
    (hUpper : s.window.upperBound < 2 ^ 32)
    (hStep : s.step action = some s')
    (hSize :
      s'.window.maxWindowSize = s.window.maxWindowSize)
    (hWrap : NoWrap s s') :
    Windowed s' := by
  have hLower := hWrap.lower
  have hOld := hWindowed.size
  by_cases hCaller : action = .thread .caller
  · subst hCaller
    refine ⟨?_, ?_⟩
    · rw [hSize]
      rcases upperBound_step hStep with hSame | hNext
      · omega
      · by_cases hBuilds :
            s'.window.upperBound = s.window.upperBound
        · omega
        have hRoom : s.callerPc.HasRoom := by
          cases callerMove_callerStep hStep with
          | builds t seq hBefore =>
              rw [hBefore]
              trivial
          | enters _ _ _ _ hEqual => exact absurd hEqual hBuilds
          | reads _ _ _ hEqual => exact absurd hEqual hBuilds
          | stays _ hCallSame
          | skips _ _ _ hCallSame
          | abandons _ _ _ _ hCallSame
          | finishes _ _ _ _ hCallSame
          | returns _ _ _ _ hCallSame
          | opens _ _ hCallSame
          | ends _ _ _ hCallSame
          | drains _ _ _ hCallSame
          | cancels _ _ _ hCallSame
          | stops _ _ hCallSame
          | divides _ _ hCallSame
          | quits _ _ hCallSame =>
              exact absurd hCallSame.upperBound hBuilds
        have hLess := hWindowed.room hRoom
        have hOne :
            s'.window.upperBound ≤ s.window.upperBound + 1 := by
          rw [hNext]
          exact Nat.mod_le _ _
        omega
    · intro hRoom
      rw [hSize]
      rcases hasRoom_callerStep hStep hRoom with
        ⟨hSame, hBefore | hAvailable⟩
      · have hLess := hWindowed.room hBefore
        omega
      · have hLess :=
          room_of_available hBounds hUpper hAvailable
        omega
  have hOther :
      s'.window.upperBound = s.window.upperBound →
      (s'.callerPc.HasRoom → s.callerPc.HasRoom) →
        Windowed s' := by
    intro hSame hKept
    refine ⟨?_, ?_⟩
    · rw [hSize]
      omega
    · intro hRoom
      have hLess := hWindowed.room (hKept hRoom)
      rw [hSize]
      omega
  by_cases hCall : ∃ call, action = .call call
  · rcases hCall with ⟨call, rfl⟩
    have hBegins := callBegins_callStep hStep
    apply hOther hBegins.upperBound
    intro hRoom
    have hPhase := hBegins.phase
    cases hPc : s'.callerPc
    case upperBound t =>
      rw [hPc] at hPhase
      cases call <;> cases t <;> cases hPhase
    case updateUpper t seq =>
      rw [hPc] at hPhase
      cases call <;> cases t <;> cases hPhase
    all_goals
      rw [hPc] at hRoom
      exact hRoom.elim
  · have hKept :=
      callKept_step hStep
        (fun call hEqual => hCall ⟨call, hEqual⟩) hCaller
    apply hOther hKept.upperBound
    rcases hKept.callerPc with hEqual | hWake
    · rw [hEqual]
      exact fun hRoom => hRoom
    · rw [hWake]
      cases s.callerPc
      all_goals exact fun hRoom => hRoom

end Sender

end Nkurdt
