import Nkurdt.Session.Delivery

/-
  Acknowledgements of the current request.

  The switch on the state takes an acknowledgement by its
  kind, whatever its number. As long as every one that it
  takes acknowledges the request of the call in progress,
  that request is delivered in order when the wait for it
  ends. An acknowledgement of an earlier request of the same
  kind ends the wait just as well.

  Main declarations:
    * `Sender.TakesStale`
    * `Sender.Requested`
    * `Session.Current`
    * `Session.accepted_of_answered`
    * `Session.exists_not_accepted`
-/

------------------------------------------------------------
-- Requests and Their Acknowledgements
------------------------------------------------------------

namespace Nkurdt

theorem Request.forall_iff
    {P : Request → Prop} :
    (∀ r, P r) ↔
      P .connect ∧ P .push ∧ P .stop ∧ P .disconnect := by
  refine ⟨fun hAll => ⟨hAll _, hAll _, hAll _, hAll _⟩, ?_⟩
  intro hEach r
  cases r with
  | connect => exact hEach.1
  | push => exact hEach.2.1
  | stop => exact hEach.2.2.1
  | disconnect => exact hEach.2.2.2

namespace Sender

/-
  The call in progress has built the request, under this
  number.
-/
def Requested
    (s : Sender)
    (r : Request)
    (n : Nat) : Prop :=
  s.history.request = some n ∧ s.history.callFirst ≤ n ∧
    s.Built n ((Transfer.request r).packet n)

/-
  The switch is about to end the wait for the request by a
  packet that does not acknowledge it.
-/
def TakesStale (s : Sender) (r : Request) : Prop :=
  match s.recvPc with
  | .dispatch packet =>
      s.state = r.waiting ∧
        ackTarget s.state packet.kind ≠ none ∧
        ∀ n ∈ s.history.request,
          ¬ s.Acknowledges packet n
  | _ => False

instance (s : Sender) (r : Request) :
    Decidable (s.TakesStale r) := by
  unfold TakesStale
  generalize s.recvPc = pc
  rcases pc with ⟨⟩ <;> infer_instance

end Sender

/-
  Everything that was built is delivered, if the requests
  for which `G` holds are acknowledged themselves.
-/
def Phase.Caught (G : Request → Prop) : Phase → Prop
| .resting => True
| .calling _ => True
| .building _ => True
| .answered r => G r
| .drained => True
| .stopping => True
| _ => False

namespace Session

/-
  The wait for a request for which `G` holds is ended by an
  acknowledgement of that request.
-/
def TakesOwn
    (G : Request → Prop)
    (x : Session) : Action → Prop
| .sender (.thread .recvHandler) =>
    ∀ r, G r → ¬ x.sender.TakesStale r
| _ => True

instance
    (G : Request → Prop)
    [DecidablePred G]
    (x : Session)
    (action : Action) :
    Decidable (x.TakesOwn G action) := by
  unfold TakesOwn
  rcases action with (_ | ⟨⟨⟩⟩ | _ | _ | _ | _ | _) | _
  all_goals
    first
      | infer_instance
      | exact decidable_of_iff' _ Request.forall_iff

/- An undisturbed step that takes no stale answer. -/
structure Owned
    (G : Request → Prop)
    (x : Session)
    (action : Action)
    (x' : Session) : Prop
    extends Undisturbed x action x' where
  own : x.TakesOwn G action

instance
    (G : Request → Prop)
    [DecidablePred G]
    (x : Session)
    (action : Action)
    (x' : Session) :
    Decidable (Owned G x action x') :=
  decidable_of_iff
    (Undisturbed x action x' ∧ x.TakesOwn G action)
    ⟨fun hBoth => ⟨hBoth.1, hBoth.2⟩,
      fun hStep => ⟨hStep.toUndisturbed, hStep.own⟩⟩

/-
  What every such run keeps. A request is built when nothing
  before it is missing, and its wait is over when it is not
  missing either.
-/
structure Current
    (G : Request → Prop)
    (x : Session) : Prop where
  caught :
    x.sender.callerPc.phase.Caught G →
      x.sender.window.upperBound ≤ x.receiver.window.1
  building :
    ∀ r, x.sender.callerPc.phase = .building r →
      x.sender.history.request = none ∧
        (G r →
          x.sender.state = r.waiting ∧
            x.sender.recvPc.target? = none)
  waiting :
    ∀ r, x.sender.callerPc.phase = .waiting r →
      ∃ n, x.sender.Requested r n ∧
        x.sender.window.upperBound = n + 1 ∧
        (G r →
          x.sender.state = r.answered ∨
              x.sender.recvPc.target? ≠ none →
            n < x.receiver.window.1)
  answered :
    ∀ r, x.sender.callerPc.phase = .answered r →
      r = .disconnect ∨
        ∃ n, x.sender.Requested r n ∧
          (G r → n < x.receiver.window.1)
  requests :
    ∀ n p, x.sender.Built n p → p.kind ≠ .data →
      n ≤ x.receiver.window.1
  begun :
    x.sender.history.callFirst ≤
      x.sender.history.packets.length

theorem current_fresh
    (G : Request → Prop)
    (config : SenderConfig)
    (w : Nat) :
    Current G (fresh config w) where
  caught := fun _ => le_rfl
  building := fun _ hPhase => by cases hPhase
  waiting := fun _ hPhase => by cases hPhase
  answered := fun _ hPhase => by cases hPhase
  requests := fun _ _ hBuilt => by cases hBuilt
  begun := Nat.le_refl 0

end Session

end Nkurdt

------------------------------------------------------------
-- Steps of the Caller
------------------------------------------------------------

namespace Nkurdt

namespace Session

open Sender

variable {G : Request → Prop}
variable {x : Session}
variable {s' : Sender}

/- A step that neither builds nor answers. -/
theorem Current.congr
    (hCurrent : Current G x)
    (hPhase :
      s'.callerPc.phase = x.sender.callerPc.phase)
    (hState : s'.state = x.sender.state)
    (hTarget :
      s'.recvPc.target? ≠ none →
        x.sender.recvPc.target? ≠ none)
    (hUpper :
      s'.window.upperBound = x.sender.window.upperBound)
    (hPackets :
      s'.history.packets = x.sender.history.packets)
    (hRequest :
      s'.history.request = x.sender.history.request)
    (hFirst :
      s'.history.callFirst = x.sender.history.callFirst) :
    Current G { x with sender := s' } := by
  have hRequested :
      ∀ r n, x.sender.Requested r n → s'.Requested r n := by
    intro r n hOld
    unfold Requested Built at hOld ⊢
    rw [hPackets, hRequest, hFirst]
    exact hOld
  refine ⟨?_, ?_, ?_, ?_, ?_, ?_⟩
  · dsimp only
    rw [hPhase, hUpper]
    exact hCurrent.caught
  · intro r hBuilding
    dsimp only at hBuilding ⊢
    rw [hPhase] at hBuilding
    obtain ⟨hNone, hFree⟩ := hCurrent.building r hBuilding
    rw [hRequest, hState]
    refine ⟨hNone, fun hGuarded => ?_⟩
    obtain ⟨hWaiting, hNoTarget⟩ := hFree hGuarded
    refine ⟨hWaiting, ?_⟩
    by_contra hSome
    exact hTarget hSome hNoTarget
  · intro r hWaiting
    dsimp only at hWaiting ⊢
    rw [hPhase] at hWaiting
    obtain ⟨n, hOld, hLast, hDelivered⟩ :=
      hCurrent.waiting r hWaiting
    rw [hUpper, hState]
    refine ⟨n, hRequested r n hOld, hLast, ?_⟩
    exact fun hGuarded hAnswer =>
      hDelivered hGuarded (hAnswer.imp_right hTarget)
  · intro r hAnswered
    dsimp only at hAnswered ⊢
    rw [hPhase] at hAnswered
    refine (hCurrent.answered r hAnswered).imp_right ?_
    intro hOld
    obtain ⟨n, hSent, hDelivered⟩ := hOld
    exact ⟨n, hRequested r n hSent, hDelivered⟩
  · intro n p hBuilt
    apply hCurrent.requests n p
    unfold Built at hBuilt ⊢
    rw [← hPackets]
    exact hBuilt
  · dsimp only
    rw [hFirst, hPackets]
    exact hCurrent.begun

/- No request is sent or answered in such a phase. -/
theorem current_of_quiet
    (hQuiet : s'.callerPc.phase.request? = none ∨
      ∃ r, s'.callerPc.phase = .calling r)
    (hCaught :
      s'.callerPc.phase.Caught G →
        s'.window.upperBound ≤ x.receiver.window.1)
    (hRequests :
      ∀ n p, s'.Built n p → p.kind ≠ .data →
        n ≤ x.receiver.window.1)
    (hBegun :
      s'.history.callFirst ≤ s'.history.packets.length) :
    Current G { x with sender := s' } := by
  have hNot :
      ∀ r,
        s'.callerPc.phase ≠ .building r ∧
          s'.callerPc.phase ≠ .waiting r ∧
          s'.callerPc.phase ≠ .answered r := by
    intro r
    refine ⟨?_, ?_, ?_⟩
    all_goals
      intro hPhase
      rw [hPhase] at hQuiet
      rcases hQuiet with hNone | ⟨r', hCalling⟩
      · cases hNone
      · cases hCalling
  exact
    { caught := hCaught
      building := fun r hPhase => absurd hPhase (hNot r).1
      waiting := fun r hPhase => absurd hPhase (hNot r).2.1
      answered := fun r hPhase => absurd hPhase (hNot r).2.2
      requests := hRequests
      begun := hBegun }

/-
  A step of the caller that builds nothing and enters no
  phase in which a request is sent.
-/
theorem current_of_free
    (hCurrent : Current G x)
    (hSame : CallSame x.sender s')
    (hFirst :
      s'.history.callFirst = x.sender.history.callFirst)
    (hQuiet : s'.callerPc.phase.request? = none ∨
      ∃ r, s'.callerPc.phase = .calling r)
    (hCaught :
      s'.callerPc.phase.Caught G →
        x.sender.window.upperBound ≤
          x.receiver.window.1) :
    Current G { x with sender := s' } := by
  apply current_of_quiet hQuiet
  · rw [hSame.upperBound]
    exact hCaught
  · intro n p hBuilt
    apply hCurrent.requests n p
    unfold Built at hBuilt ⊢
    rw [← hSame.packets]
    exact hBuilt
  · rw [hFirst, hSame.packets]
    exact hCurrent.begun

/- A step of the caller with which a wait is over. -/
theorem current_of_answered
    {r : Request}
    (hCurrent : Current G x)
    (hSame : CallSame x.sender s')
    (hFirst :
      s'.history.callFirst = x.sender.history.callFirst)
    (hAfter : s'.callerPc.phase = .answered r)
    (hCaught :
      G r →
        x.sender.window.upperBound ≤ x.receiver.window.1)
    (hAnswered :
      r = .disconnect ∨
        ∃ n, x.sender.Requested r n ∧
          (G r → n < x.receiver.window.1)) :
    Current G { x with sender := s' } := by
  refine
    { caught := ?_
      building := ?_
      waiting := ?_
      answered := ?_
      requests := ?_
      begun := ?_ }
  · dsimp only
    rw [hAfter, hSame.upperBound]
    exact hCaught
  · intro r' hPhase
    dsimp only at hPhase
    rw [hAfter] at hPhase
    cases hPhase
  · intro r' hPhase
    dsimp only at hPhase
    rw [hAfter] at hPhase
    cases hPhase
  · intro r' hPhase
    dsimp only at hPhase ⊢
    rw [hAfter] at hPhase
    cases hPhase
    unfold Requested Built at hAnswered ⊢
    rw [hSame.request, hFirst, hSame.packets]
    exact hAnswered
  · intro n p hBuilt
    apply hCurrent.requests n p
    unfold Built at hBuilt ⊢
    rw [← hSame.packets]
    exact hBuilt
  · dsimp only
    rw [hFirst, hSame.packets]
    exact hCurrent.begun

/- A packet is built when nothing before it is missing. -/
theorem current_builds
    (hCurrent : Current G x)
    (hJoined : Joined x)
    (hStep : x.sender.callerStep = some s')
    {t : Transfer}
    {seq : Nat}
    (hBefore : x.sender.callerPc = .updateUpper t seq)
    (hAfter : s'.callerPc = .lockPool t seq)
    (hState : s'.state = x.sender.state)
    (hUpper :
      s'.window.upperBound =
        SequenceNumber.update x.sender.window.upperBound)
    (hPackets :
      s'.history.packets =
        x.sender.history.packets ++ [t.packet seq])
    (hRequest :
      ∀ r, t = .request r →
        s'.history.request = some seq) :
    Current G { x with sender := s' } := by
  have hKeeps := callerStep_keeps hStep
  have hFirst := (callFirst_callerStep hStep).1
  have hSeq := hJoined.originals.reserved t seq hBefore
  have hLength := hJoined.originals.length
  have hBegun := hCurrent.begun
  have hRoom := hJoined.room
  have hNext :
      s'.window.upperBound =
        x.sender.window.upperBound + 1 := by
    rw [hUpper]
    exact SequenceNumber.update_of_lt (by omega)
  have hBuilt : s'.Built seq (t.packet seq) := by
    unfold Built
    rw [hPackets, hSeq, ← hLength]
    exact List.getElem?_concat_length
  have hNow : s'.callerPc.phase = t.behind := by
    rw [hAfter]
    rfl
  have hOld : x.sender.callerPc.phase = t.before := by
    rw [hBefore]
    rfl
  -- Only the new packet can be ahead of the receiver.
  have hRequests :
      (t.kind ≠ .data →
        x.sender.window.upperBound ≤
          x.receiver.window.1) →
      ∀ n p, s'.Built n p → p.kind ≠ .data →
        n ≤ x.receiver.window.1 := by
    intro hCaught n p hNew hKind
    rcases built_of_append hPackets hNew with
      hPrevious | ⟨hNumber, hPacket⟩
    · exact hCurrent.requests n p hPrevious hKind
    · rw [hPacket] at hKind
      have hCaughtUp := hCaught hKind
      omega
  cases t with
  | request r =>
      have hCaught :
          x.sender.window.upperBound ≤ x.receiver.window.1 := by
        apply hCurrent.caught
        rw [hOld]
        trivial
      refine ⟨?_, ?_, ?_, ?_, ?_, ?_⟩
      · dsimp only
        rw [hNow]
        exact fun hNone => hNone.elim
      · intro r' hPhase
        dsimp only at hPhase
        rw [hNow] at hPhase
        cases hPhase
      · intro r' hPhase
        dsimp only at hPhase ⊢
        rw [hNow] at hPhase
        cases hPhase
        refine ⟨seq, ⟨hRequest r rfl, by omega, hBuilt⟩,
          by omega, ?_⟩
        -- The request cannot have been answered before.
        intro hGuarded hAnswer
        obtain ⟨_, hFree⟩ := hCurrent.building r hOld
        obtain ⟨hWaiting, hNone⟩ := hFree hGuarded
        rw [hState, hKeeps.recvPc, hWaiting] at hAnswer
        rcases hAnswer with hAnswered | hSome
        · exact absurd hAnswered.symm
            (r.answered_ne_waiting r)
        · exact absurd hNone hSome
      · intro r' hPhase
        dsimp only at hPhase
        rw [hNow] at hPhase
        cases hPhase
      · exact hRequests (fun _ => hCaught)
      · dsimp only
        rw [hFirst, hPackets, List.length_append]
        omega
  | data payload =>
      apply current_of_quiet
      · rw [hNow]
        exact Or.inl rfl
      · rw [hNow]
        exact fun hNone => hNone.elim
      · exact hRequests (fun hKind => absurd rfl hKind)
      · rw [hFirst, hPackets, List.length_append]
        omega

theorem current_callerStep
    (hGuards : ∀ r, r ≠ .push → G r)
    (hCurrent : Current G x)
    (hJoined : Joined x)
    (hStep : x.sender.callerStep = some s') :
    Current G { x with sender := s' } := by
  have hKeeps := callerStep_keeps hStep
  have hFirst := (callFirst_callerStep hStep).1
  have hAnswering := hJoined.answering
  cases callerMove_callerStep hStep with
  | stays hPhase hSame =>
      apply hCurrent.congr hPhase hSame.state ?_
        hSame.upperBound hSame.packets hSame.request hFirst
      rw [hKeeps.recvPc]
      exact fun hSome => hSome
  | enters r hBefore hAfter hState hUpper hPackets hRequest =>
      have hNone : x.sender.recvPc.target? = none :=
        hAnswering.target_eq_none
          (CallerPc.sent?_of_calling hBefore)
      refine
        { caught := ?_
          building := ?_
          waiting := ?_
          answered := ?_
          requests := ?_
          begun := ?_ }
      · dsimp only
        rw [hUpper]
        intro _
        apply hCurrent.caught
        rw [hBefore]
        trivial
      · intro r' hPhase
        dsimp only at hPhase ⊢
        rw [hAfter] at hPhase
        cases hPhase
        rw [hKeeps.recvPc]
        exact ⟨hRequest, fun _ => ⟨hState, hNone⟩⟩
      · intro r' hPhase
        dsimp only at hPhase
        rw [hAfter] at hPhase
        cases hPhase
      · intro r' hPhase
        dsimp only at hPhase
        rw [hAfter] at hPhase
        cases hPhase
      · intro n p hBuilt
        apply hCurrent.requests n p
        unfold Built at hBuilt ⊢
        rw [← hPackets]
        exact hBuilt
      · dsimp only
        rw [hFirst, hPackets]
        exact hCurrent.begun
  | builds t seq hBefore hAfter hState hUpper hPackets
      hRequest =>
      apply current_builds hCurrent hJoined hStep hBefore
        hAfter hState hUpper hPackets
      intro r hTransfer
      subst hTransfer
      exact hRequest
  | abandons _ _ _ hStopped
  | cancels _ _ hStopped =>
      rw [hJoined.running] at hStopped
      cases hStopped
  | skips hBefore hAfter _ hSame =>
      refine current_of_answered hCurrent hSame hFirst hAfter
        ?_ (Or.inl rfl)
      intro _
      apply hCurrent.caught
      rw [hBefore]
      trivial
  | finishes r hBefore hAfter hDone hSame =>
      have hState := hAnswering.state_of_done hBefore hDone
      obtain ⟨n, hRequested, hLast, hDelivered⟩ :=
        hCurrent.waiting r hBefore
      refine current_of_answered hCurrent hSame hFirst hAfter
        ?_ (Or.inr ⟨n, hRequested, ?_⟩)
      · intro hGuarded
        have hOut := hDelivered hGuarded (Or.inl hState)
        omega
      · exact fun hGuarded =>
          hDelivered hGuarded (Or.inl hState)
  | returns r hBefore hAfter hFailed hSame =>
      apply current_of_free hCurrent hSame hFirst
      · rw [hAfter]
        exact Or.inl rfl
      · intro _
        apply hCurrent.caught
        rw [hBefore]
        exact hGuards r
          (hAnswering.ne_push hBefore hFailed)
  | opens _ hAfter hSame
  | ends _ hAfter _ hSame
  | divides _ hAfter hSame =>
      apply current_of_free hCurrent hSame hFirst
      · rw [hAfter]
        exact Or.inl rfl
      · rw [hAfter]
        exact fun hNone => hNone.elim
  | reads _ hAfter _ hUpper hPackets =>
      apply current_of_quiet
      · rw [hAfter]
        exact Or.inl rfl
      · rw [hAfter]
        exact fun hNone => hNone.elim
      · intro n p hBuilt
        apply hCurrent.requests n p
        unfold Built at hBuilt ⊢
        rw [← hPackets]
        exact hBuilt
      · rw [hFirst, hPackets]
        exact hCurrent.begun
  | drains _ hAfter hZero hSame =>
      apply current_of_free hCurrent hSame hFirst
      · rw [hAfter]
        exact Or.inl rfl
      · intro _
        have hEqual :
            x.sender.window.upperBound =
              x.sender.window.lowerBound := hZero
        rw [hEqual]
        exact hJoined.behind
  | stops hBefore hAfter hSame =>
      apply current_of_free hCurrent hSame hFirst
      · exact Or.inr ⟨.stop, hAfter⟩
      · intro _
        apply hCurrent.caught
        rw [hBefore]
        trivial
  | quits hBefore hAfter hSame =>
      apply current_of_free hCurrent hSame hFirst
      · rw [hAfter]
        exact Or.inl rfl
      · intro _
        apply hCurrent.caught
        rw [hBefore]
        trivial

end Session

end Nkurdt

------------------------------------------------------------
-- Steps of the Other Threads
------------------------------------------------------------

namespace Nkurdt

namespace Session

open Sender

variable {G : Request → Prop}
variable {x : Session}
variable {s' : Sender}

/-
  An acknowledgement of the request itself is sent when the
  request is not missing any more.
-/
theorem accepted_of_acknowledges
    {r : Request}
    {n : Nat}
    {packet : Packet}
    (hCurrent : Current G x)
    (hJoined : Joined x)
    (hRequested : x.sender.Requested r n)
    (hReply : packet ∈ x.replies)
    (hAcks : x.sender.Acknowledges packet n) :
    n < x.receiver.window.1 := by
  have hSound := (hJoined.reply_sound hReply).1
  have hKnown := hAcks.2
  unfold Receiver.SoundAck at hSound
  rw [hJoined.mode] at hSound
  split_ifs at hSound with hMode
  · rw [covers_selectiveRepeat hMode] at hKnown
    have hNext :=
      hCurrent.requests n _ hRequested.2.2
        (by cases r <;> exact fun hKind => by cases hKind)
    apply Nat.lt_of_le_of_ne hNext
    intro hEqual
    apply hJoined.not_held_lower
    rw [← hEqual, ← hKnown]
    exact hSound
  · rw [covers_goBackN (Bool.eq_false_iff.mpr hMode)] at hKnown
    exact hKnown.trans_le hSound

theorem current_recvHandlerStep
    (hCurrent : Current G x)
    (hJoined : Joined x)
    (hStep : x.sender.recvHandlerStep = some s')
    (hOwn :
      TakesOwn G x (.sender (.thread .recvHandler))) :
    Current G { x with sender := s' } := by
  have hKeeps := recvHandlerStep_keeps hStep
  have hTarget := target_recvHandlerStep hStep
  have hPhase := phase_of_wake hKeeps.callerPc
  -- What the switch takes acknowledges the request.
  have hTakes :
      ∀ r packet, G r →
        x.sender.recvPc = .dispatch packet →
        x.sender.state = r.waiting →
        ackTarget x.sender.state packet.kind ≠ none →
          ∃ n ∈ x.sender.history.request,
            x.sender.Acknowledges packet n := by
    intro r packet hGuarded hPc hState hSome
    by_contra hNone
    apply hOwn r hGuarded
    unfold TakesStale
    rw [hPc]
    exact ⟨hState, hSome, fun n hRequest hAcks =>
      hNone ⟨n, hRequest, hAcks⟩⟩
  refine
    { caught := ?_
      building := ?_
      waiting := ?_
      answered := ?_
      requests := ?_
      begun := ?_ }
  · dsimp only
    rw [hPhase, hKeeps.upperBound]
    exact hCurrent.caught
  · intro r hBuilding
    dsimp only at hBuilding ⊢
    rw [hPhase] at hBuilding
    obtain ⟨hRequest, hFree⟩ := hCurrent.building r hBuilding
    rw [hKeeps.request]
    refine ⟨hRequest, fun hGuarded => ?_⟩
    obtain ⟨hState, hNone⟩ := hFree hGuarded
    refine ⟨?_, ?_⟩
    · rcases hTarget.1 with hSame | ⟨_, hSome⟩
      · exact hSame.trans hState
      · rw [hNone] at hSome
        cases hSome
    · rw [Option.eq_none_iff_forall_not_mem]
      intro target hNext
      rcases hTarget.2 target hNext with
        hOld | ⟨packet, hPc, hAck⟩
      · rw [hNone] at hOld
        cases hOld
      · rcases hTakes r packet hGuarded hPc hState
            (by rw [hAck]; exact Option.some_ne_none _) with
          ⟨n, hNumber, _⟩
        rw [hRequest] at hNumber
        cases hNumber
  · intro r hWaiting
    dsimp only at hWaiting ⊢
    rw [hPhase] at hWaiting
    obtain ⟨n, hRequested, hLast, hDelivered⟩ :=
      hCurrent.waiting r hWaiting
    unfold Requested Built at hRequested ⊢
    rw [hKeeps.request, hKeeps.callFirst, hKeeps.packets,
      hKeeps.upperBound]
    refine ⟨n, hRequested, hLast, ?_⟩
    intro hGuarded hAnswer
    rcases hAnswer with hAnswered | hSome
    · rcases hTarget.1 with hSame | ⟨_, hOld⟩
      · rw [hSame] at hAnswered
        exact hDelivered hGuarded (Or.inl hAnswered)
      · apply hDelivered hGuarded
        rw [hOld]
        exact Or.inr (Option.some_ne_none _)
    · rcases Option.ne_none_iff_exists'.mp hSome with
        ⟨target, hNext⟩
      rcases hTarget.2 target hNext with
        hOld | ⟨packet, hPc, hAck⟩
      · apply hDelivered hGuarded
        rw [hOld]
        exact Or.inr (Option.some_ne_none _)
      · have hState : x.sender.state = r.waiting := by
          rcases answers_of_ackTarget hAck with ⟨r', hNow, _⟩
          apply (hJoined.answering.waiting r
            (Or.inr hWaiting)).resolve_right
          rw [hNow]
          exact fun hEqual =>
            r.answered_ne_waiting r' hEqual.symm
        rcases hTakes r packet hGuarded hPc hState
            (by rw [hAck]; exact Option.some_ne_none _) with
          ⟨n', hNumber, hAcks⟩
        rw [hRequested.1] at hNumber
        cases hNumber
        exact accepted_of_acknowledges hCurrent hJoined
          hRequested
          (hJoined.heard.inHand packet (by rw [hPc]; rfl))
          hAcks
  · intro r hAnswered
    dsimp only at hAnswered ⊢
    rw [hPhase] at hAnswered
    unfold Requested Built
    rw [hKeeps.request, hKeeps.callFirst, hKeeps.packets]
    exact hCurrent.answered r hAnswered
  · intro n p hBuilt
    apply hCurrent.requests n p
    unfold Built at hBuilt ⊢
    rw [← hKeeps.packets]
    exact hBuilt
  · dsimp only
    rw [hKeeps.callFirst, hKeeps.packets]
    exact hCurrent.begun

/- Only `recv_handler` is about to set a state. -/
theorem target_of_other
    {s s' : Sender}
    {action : Sender.Action}
    (hStep : s.step action = some s')
    (hRecv : action ≠ .thread .recvHandler)
    (hTarget : s'.recvPc.target? ≠ none) :
    s.recvPc.target? ≠ none := by
  by_cases hSocket : ∃ result, action = .recv result
  · rcases hSocket with ⟨result, rfl⟩
    exfalso
    apply hTarget
    rcases (recvStep_keeps hStep).next with
      ⟨bytes, hPc⟩ | hPc
    · rw [hPc]
      rfl
    · rw [hPc]
      rfl
  · rw [recvPc_of_other hStep hRecv
      (fun result hEqual => hSocket ⟨result, hEqual⟩)]
      at hTarget
    exact hTarget

theorem current_senderStep
    {action : Sender.Action}
    (hGuards : ∀ r, r ≠ .push → G r)
    (hCurrent : Current G x)
    (hJoined : Joined x)
    (hStep : x.sender.step action = some s')
    (hOwn : TakesOwn G x (.sender action)) :
    Current G { x with sender := s' } := by
  by_cases hCaller : action = .thread .caller
  · subst hCaller
    exact current_callerStep hGuards hCurrent hJoined hStep
  by_cases hRecv : action = .thread .recvHandler
  · subst hRecv
    exact current_recvHandlerStep hCurrent hJoined hStep hOwn
  by_cases hCall : ∃ call, action = .call call
  · rcases hCall with ⟨call, rfl⟩
    have hBegins := callBegins_callStep hStep
    apply current_of_quiet
    · rw [hBegins.phase]
      cases call
      case stop => exact Or.inl rfl
      all_goals exact Or.inr ⟨_, rfl⟩
    · rw [hBegins.upperBound]
      intro _
      apply hCurrent.caught
      rw [hBegins.resting]
      trivial
    · intro n p hBuilt
      apply hCurrent.requests n p
      unfold Built at hBuilt ⊢
      rw [← hBegins.packets]
      exact hBuilt
    · rw [hBegins.callFirst, hBegins.packets]
  · have hKept :=
      callKept_step hStep
        (fun call hEqual => hCall ⟨call, hEqual⟩) hCaller
    exact hCurrent.congr (phase_of_wake hKept.callerPc)
      (state_of_other hJoined.answering hStep hCaller hRecv)
      (target_of_other hStep hRecv) hKept.upperBound
      hKept.packets hKept.request hKept.callFirst

/- The receiver can only come closer. -/
theorem Current.advance
    {receiver : Receiver}
    (hCurrent : Current G x)
    (hFirst : x.receiver.window.1 ≤ receiver.window.1) :
    Current G { x with receiver := receiver } where
  caught := fun hPhase =>
    (hCurrent.caught hPhase).trans hFirst
  building := hCurrent.building
  waiting := by
    intro r hPhase
    obtain ⟨n, hRequested, hLast, hDelivered⟩ :=
      hCurrent.waiting r hPhase
    exact ⟨n, hRequested, hLast, fun hGuarded hAnswer =>
      (hDelivered hGuarded hAnswer).trans_le hFirst⟩
  answered := by
    intro r hPhase
    refine (hCurrent.answered r hPhase).imp_right ?_
    intro hAnswered
    obtain ⟨n, hRequested, hDelivered⟩ := hAnswered
    exact ⟨n, hRequested, fun hGuarded =>
      (hDelivered hGuarded).trans_le hFirst⟩
  requests := fun n p hBuilt hKind =>
    (hCurrent.requests n p hBuilt hKind).trans hFirst
  begun := hCurrent.begun

/-
  No request is delivered before its turn, so that the
  receiver leaves its loop when it goes idle.
-/
theorem ends_of_current
    {packet : Packet}
    (addr : SocketAddr)
    (hCurrent : Current G x)
    (hJoined : Joined x)
    (hBuilt : x.sender.Built packet.seq packet)
    (hRoom :
      x.sender.window.upperBound +
        x.receiver.maxWindowSize < 2 ^ 32)
    (hState : x.receiver.state ≠ .idle) :
    (x.receiver.onPacket packet addr).state ≠ .idle ∨
      (x.receiver.onPacket packet addr).status = .ended := by
  have hRequest := (hJoined.originals.inRange hBuilt).2
  have hSeq := hJoined.originals.lt_upperBound hBuilt
  by_cases hKind : packet.kind = .disconnReq
  · by_cases hInside : x.receiver.InWindow packet.seq
    · have hServing :
          x.receiver.Settled := by
        rcases hJoined.served with ⟨_, hFresh⟩ | hServing
        · rw [hFresh] at hState
          exact absurd rfl hState
        · exact hServing.settled
      have hRoomy : x.receiver.Roomy packet := by
        unfold Receiver.Roomy
        omega
      have hFirst :=
        hCurrent.requests packet.seq packet hBuilt
          (by rw [hKind]; exact fun hEqual => by cases hEqual)
      have hDelivered :=
        (Receiver.lower_onPacket_of_eq addr hRequest hRoomy
          hState hServing (le_antisymm hFirst hInside.1)
          hInside).1
      by_cases hNext :
          (x.receiver.onPacket packet addr).state = .idle
      · exact Or.inr
          (Receiver.status_onPacket_of_idle addr hRequest
            hState hNext hDelivered)
      · exact Or.inl hNext
    · left
      rw [Receiver.state_onPacket addr hRequest hState,
        if_neg hInside]
      exact hState
  · exact Or.inl
      (state_onPacket_ne_idle addr hRequest hKind hState)

end Session

end Nkurdt

------------------------------------------------------------
-- Runs
------------------------------------------------------------

namespace Nkurdt

namespace Session

open Sender
open Runs

variable {G : Request → Prop}

/- Both sides and what has been answered, along a run. -/
structure Tracked (G : Request → Prop) (x : Session) : Prop where
  joined : Joined x
  current : Current G x

theorem tracked_step
    {x x' : Session}
    {action : Action}
    (hGuards : ∀ r, r ≠ .push → G r)
    (hTracked : Tracked G x)
    (hStep : x.step action = some x')
    (hOwned : Owned G x action x') :
    Tracked G x' := by
  obtain ⟨hJoined, hCurrent⟩ := hTracked
  have hUndisturbed := hOwned.toUndisturbed
  cases action with
  | sender action =>
      rcases Option.map_eq_some_iff.mp hStep with
        ⟨s', hSender, rfl⟩
      exact ⟨joined_senderStep hJoined hSender hUndisturbed,
        current_senderStep hGuards hCurrent hJoined hSender
          hOwned.own⟩
  | receive result =>
      cases hStep
      rcases recvStep_of_carries hJoined.originals
          hUndisturbed.delivers with
        hSame | ⟨packet, addr, hBuilt, hLooping, hNext⟩
      · rw [hSame]
        exact ⟨hJoined, hCurrent⟩
      · rw [hNext] at hUndisturbed ⊢
        have hRoom := hUndisturbed.room
        have hEnds :=
          ends_of_current addr hCurrent hJoined hBuilt hRoom
        refine ⟨joined_onPacket addr hJoined hBuilt hLooping
          hRoom hEnds, hCurrent.advance ?_⟩
        exact (served_onPacket addr hJoined hBuilt hLooping
          hRoom hEnds).2

theorem tracked_of_reaches
    {config : SenderConfig}
    {w : Nat}
    {x : Session}
    (hGuards : ∀ r, r ≠ .push → G r)
    (hSize : 1 ≤ w)
    (hReach : Reaches step (Owned G) (fresh config w) x) :
    Tracked G x :=
  hReach.invariant
    ⟨joined_fresh config hSize, current_fresh G config w⟩
    (fun _ _ _ hTracked hNext hAllowed =>
      tracked_step hGuards hTracked hNext hAllowed)

end Session

end Nkurdt

------------------------------------------------------------
-- Sessions That Send Empty Streams
------------------------------------------------------------

namespace Nkurdt

namespace Session

open Runs

/-
  `send` of an empty stream under the numbers `n` and
  `n + 1`, up to the wait for the last acknowledgement.
-/
def emptySend (n : Nat) : List Action :=
  [.sender (.call (.send .eof))] ++
    steps .caller 10 ++
    exchange ((Transfer.request .push).packet n)
      .dataPushAck (n + 1) 13 ++
    steps .caller 3 ++
    [.sender (.tick 1000000)] ++
    steps .caller 13

/- The acknowledgement of the last packet is being taken. -/
theorem exists_stopping :
    ∃ x,
      Reaches step (Owned fun _ => True)
        (fresh ⟨1, 0, 1, false, false⟩ 1) x ∧
      (x.sender.state = .stopping ∧
        x.sender.recvHandlerStep.map Sender.state =
          some .connected) :=
  exists_reaches_of_runActions
    (connecting ++ emptySend 1 ++
      exchange ((Transfer.request .stop).packet 2)
        .dataStopAck 3 3)
    (by decide +kernel)

end Session

end Nkurdt

------------------------------------------------------------
-- Accepted When It Is Answered
------------------------------------------------------------

namespace Nkurdt

namespace Session

open Sender
open Runs

/-
  As long as no stale answer is taken, an acknowledgement
  ends the wait for a request when the receiver has
  delivered that request, and `send` returns with success
  when its own `DataStop` is delivered.
-/
theorem accepted_of_answered
    {config : SenderConfig}
    {w : Nat}
    {x : Session}
    (hSize : 1 ≤ w)
    (hReach :
      Reaches step (Owned fun _ => True)
        (fresh config w) x) :
    (∀ r s',
        x.sender.state = Request.waiting r →
        x.sender.recvHandlerStep = some s' →
        s'.state ≠ r.waiting →
          ∃ n, x.sender.Requested r n ∧
            n < x.receiver.window.1) ∧
      (x.sender.callerPc = .finish .stop →
        ∃ n, x.sender.Requested .stop n ∧
          n < x.receiver.window.1) := by
  have hTracked :=
    tracked_of_reaches (fun _ _ => trivial) hSize hReach
  obtain ⟨hJoined, hCurrent⟩ := hTracked
  refine ⟨?_, ?_⟩
  · intro r s' hState hStep hMoved
    have hSome : x.sender.recvPc.target? ≠ none := by
      rcases (target_recvHandlerStep hStep).1 with
        hSame | ⟨_, hTarget⟩
      · exact absurd (hSame.trans hState) hMoved
      · rw [hTarget]
        exact Option.some_ne_none _
    have hSent :=
      hJoined.answering.tracked.waiting r hState
    rcases CallerPc.sent?_eq_some.mp hSent with
      hBuilding | hWaiting
    · exact absurd
        ((hCurrent.building r hBuilding).2 trivial).2 hSome
    · obtain ⟨n, hRequested, _, hDelivered⟩ :=
        hCurrent.waiting r hWaiting
      exact ⟨n, hRequested,
        hDelivered trivial (Or.inr hSome)⟩
  · intro hPc
    rcases hCurrent.answered .stop (by rw [hPc]; rfl) with
      hNone | ⟨n, hRequested, hDelivered⟩
    · cases hNone
    · exact ⟨n, hRequested, hDelivered trivial⟩

/- The `DataStop` of an empty stream is delivered. -/
theorem accepted_of_answered_stop :
    ∃ x n,
      Reaches step (Owned fun _ => True)
        (fresh ⟨1, 0, 1, false, false⟩ 1) x ∧
      x.sender.recvHandlerStep.map Sender.state =
        some .connected ∧
      x.sender.Requested .stop n ∧
      n < x.receiver.window.1 := by
  rcases exists_stopping with ⟨x, hReach, hState, hNext⟩
  rcases Option.map_eq_some_iff.mp hNext with
    ⟨s', hStep, hConnected⟩
  have hAccepted := accepted_of_answered (by decide) hReach
  rcases hAccepted.1 .stop s' hState hStep
      (by rw [hConnected]; decide) with
    ⟨n, hRequested, hDelivered⟩
  exact ⟨x, n, hReach, hNext, hRequested, hDelivered⟩

/-
  The acknowledgement of the first `DataPush` is delivered
  once more, to a second `send` whose own `DataPush` has not
  been sent yet.
-/
theorem exists_stale :
    ∃ x,
      Reaches step Undisturbed
        (fresh ⟨1, 0, 1, false, false⟩ 1) x ∧
      (x.sender.state = .pushing ∧
        x.sender.recvHandlerStep.map Sender.state =
          some .sending ∧
        x.sender.history.request = some 3 ∧
        x.receiver.window.1 = 3) :=
  exists_reaches_of_runActions
    (connecting ++ emptySend 1 ++
      exchange ((Transfer.request .stop).packet 2)
        .dataStopAck 3 13 ++
      steps .caller 3 ++
      [Action.sender (.call (.send .eof))] ++
      steps .caller 10 ++
      answer .dataPushAck 2 3)
    (by decide +kernel)

/- It ends the wait for a request that is not delivered. -/
theorem exists_not_accepted :
    ∃ x s',
      Reaches step Undisturbed
        (fresh ⟨1, 0, 1, false, false⟩ 1) x ∧
      x.sender.state = .pushing ∧
      x.sender.recvHandlerStep = some s' ∧
      s'.state = .sending ∧
      ¬ ∃ n, x.sender.Requested .push n ∧
          n < x.receiver.window.1 := by
  rcases exists_stale with
    ⟨x, hReach, hState, hNext, hRequest, hFirst⟩
  rcases Option.map_eq_some_iff.mp hNext with
    ⟨s', hStep, hSending⟩
  refine ⟨x, s', hReach, hState, hStep, hSending, ?_⟩
  intro hAccepted
  obtain ⟨n, hRequested, hDelivered⟩ := hAccepted
  rw [hRequested.1] at hRequest
  cases hRequest
  omega

end Session

end Nkurdt
