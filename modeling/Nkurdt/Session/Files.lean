import Nkurdt.Sender.Script
import Nkurdt.Session.Current

/-
  One file for every transfer.

  The state of the receiver is the one that the delivered
  packets lead to, and its client has seen what they are
  meant to show. This rests on the order in which requests
  are built: a `DataStop` follows only what is delivered,
  and the next `DataPush` follows only a delivered
  `DataStop`. A stale acknowledgement of a `DataStop` breaks
  the second half.

  Main declarations:
    * `Session.Shown`
    * `Session.stopsDelivered`
    * `Session.files_eq_streams`
    * `Session.exists_files_missing`
-/

------------------------------------------------------------
-- Kinds by Number
------------------------------------------------------------

namespace Nkurdt

/- Data packets leave the automaton where it is. -/
theorem controlFrom_of_data
    {K : Nat → PacketKind}
    {state : ReceiverState}
    {a b : Nat}
    (hData : ∀ n, a ≤ n → K n = .data) :
    controlFrom K state a b = state := by
  unfold controlFrom
  generalize b - a = count
  induction count generalizing a with
  | zero => rfl
  | succ count ih =>
      rw [List.range'_succ, List.map_cons, List.foldl_cons,
        hData a le_rfl, controlStep_data]
      exact ih (fun n hAbove => hData n (by omega))

namespace Sender

/- The kind of the packet that was built under the number. -/
def kindAt (s : Sender) (n : Nat) : PacketKind :=
  (s.history.packets[n]?.map Packet.kind).getD .data

theorem kindAt_of_built
    {s : Sender}
    {n : Nat}
    {p : Packet}
    (hBuilt : s.Built n p) :
    s.kindAt n = p.kind := by
  unfold kindAt
  unfold Built at hBuilt
  rw [hBuilt]
  rfl

/- The automaton on the first packets. -/
theorem controlFrom_kindAt
    {s : Sender}
    {n : Nat}
    (hLe : n ≤ s.history.packets.length) :
    controlFrom s.kindAt .idle 0 n =
      controlOf (s.history.packets.take n) := by
  induction n with
  | zero => rfl
  | succ n ih =>
      have hLess : n < s.history.packets.length := hLe
      have hBuilt : s.Built n s.history.packets[n] :=
        List.getElem?_eq_getElem hLess
      rw [controlFrom_trans (Nat.zero_le n) (Nat.le_succ n),
        ih hLess.le, controlFrom_succ (Nat.lt_succ_self n),
        controlFrom_self, kindAt_of_built hBuilt,
        List.take_succ_eq_append_getElem hLess,
        controlOf_append_singleton]

end Sender

end Nkurdt

------------------------------------------------------------
-- What the Client Is Shown
------------------------------------------------------------

namespace Nkurdt

namespace Session

open Sender

/- The packets that the receiver has delivered. -/
def delivered (x : Session) : List Packet :=
  x.sender.history.packets.take x.receiver.window.1

structure Shown (x : Session) : Prop where
  state : x.receiver.state = controlOf x.delivered
  client :
    Client.ofTrace x.receiver.trace =
      Client.ofPackets x.delivered

theorem shown_fresh
    (config : SenderConfig)
    (w : Nat) :
    Shown (fresh config w) :=
  ⟨rfl, rfl⟩

/- The sender adds packets that are not delivered yet. -/
theorem shown_senderStep
    {x : Session}
    {s' : Sender}
    {action : Sender.Action}
    (hShown : Shown x)
    (hJoined : Joined x)
    (hStep : x.sender.step action = some s') :
    Shown { x with sender := s' } := by
  have hFirst := hJoined.first_le
  have hLength := hJoined.originals.length
  have hSame :
      s'.history.packets.take x.receiver.window.1 =
        x.delivered := by
    unfold delivered
    rcases packets_step hStep with hPackets | ⟨p, hPackets⟩
    · rw [hPackets]
    · rw [hPackets]
      exact List.take_append_of_le_length (by omega)
  refine ⟨?_, ?_⟩
  · rw [hShown.state, ← hSame]
    rfl
  · rw [hShown.client, ← hSame]
    rfl

variable {G : Request → Prop}
variable {x : Session}

/- Nothing but data is built ahead of the receiver. -/
theorem Current.kindAt_of_above
    (hCurrent : Current G x)
    {n : Nat}
    (hAbove : x.receiver.window.1 < n) :
    x.sender.kindAt n = .data := by
  unfold kindAt
  cases hPacket : x.sender.history.packets[n]? with
  | none => rfl
  | some p =>
      by_contra hKind
      have hNext := hCurrent.requests n p hPacket hKind
      omega

/- So a packet arrives in order as far as states go. -/
theorem Current.inOrder
    (hCurrent : Current G x)
    {packet : Packet}
    (hBuilt : x.sender.Built packet.seq packet) :
    x.receiver.InOrder x.sender.kindAt packet := by
  refine ⟨?_, ?_⟩
  · intro hAhead _
    rw [← kindAt_of_built hBuilt,
      hCurrent.kindAt_of_above hAhead]
    exact controlStep_data _
  · intro hExpected _ m _ _ _
    apply controlFrom_of_data
    intro n hAbove
    exact hCurrent.kindAt_of_above (by omega)

/- A packet is delivered in the state it is meant for. -/
theorem state_of_expected
    (hShown : Shown x)
    (hScripted : Scripted x.sender)
    {packet : Packet}
    (hBuilt :
      x.sender.Built x.receiver.window.1 packet) :
    x.receiver.state = packet.kind.needs :=
  hShown.state.trans
    (hScripted.kinds x.receiver.window.1 packet hBuilt)

end Session

end Nkurdt

------------------------------------------------------------
-- Packets That Arrive
------------------------------------------------------------

namespace Nkurdt

namespace Session

open Sender

variable {G : Request → Prop}
variable {x : Session}
variable {packet : Packet}

/- The packets that an iteration delivers. -/
structure Passes
    (x : Session)
    (receiver : Receiver)
    (passed : List Packet) : Prop where
  delivered :
    delivered { x with receiver := receiver } =
      x.delivered ++ passed
  built :
    ∀ p ∈ passed, ∃ n,
      x.receiver.window.1 ≤ n ∧ n < receiver.window.1 ∧
        x.sender.Built n p

theorem exists_passes
    {receiver : Receiver}
    (hJoined : Joined x)
    (hFirst : x.receiver.window.1 ≤ receiver.window.1) :
    ∃ passed, Passes x receiver passed := by
  have hLength :
      x.delivered.length = x.receiver.window.1 := by
    have hLe := hJoined.first_le
    rw [← hJoined.originals.length] at hLe
    exact List.length_take_of_le hLe
  have hPrefix :
      x.delivered <+:
        x.sender.history.packets.take receiver.window.1 :=
    List.take_prefix_take_left hFirst
  rcases hPrefix with ⟨passed, hPassed⟩
  refine ⟨passed, hPassed.symm, ?_⟩
  intro p hMember
  rcases List.mem_iff_getElem?.mp hMember with ⟨i, hIndex⟩
  have hPlace :
      (x.delivered ++ passed)[x.receiver.window.1 + i]? =
        some p := by
    rw [List.getElem?_append_right (by omega), hLength,
      Nat.add_sub_cancel_left]
    exact hIndex
  rw [hPassed, List.getElem?_take] at hPlace
  split_ifs at hPlace with hLess
  exact ⟨_, Nat.le_add_right _ i, hLess, hPlace⟩

/-
  The client sees what it is meant to see of the packets
  that an iteration delivers.
-/
theorem client_onPacket
    {passed : List Packet}
    (addr : SocketAddr)
    (hShown : Shown x)
    (hJoined : Joined x)
    (hNext :
      Joined
        { x with
          receiver := x.receiver.onPacket packet addr })
    (hRequest : (getAckKind packet.kind).isSome)
    (hPasses :
      Passes x (x.receiver.onPacket packet addr) passed)
    (hPassed :
      x.receiver.Completes packet addr ∧
          passed = [packet] ∨
        ¬ x.receiver.Completes packet addr ∧
          ∀ p ∈ passed, p.kind ≠ .dataStop) :
    Client.ofTrace (x.receiver.onPacket packet addr).trace =
      Client.ofPackets
        (delivered
          { x with
            receiver :=
              x.receiver.onPacket packet addr }) := by
  rcases Receiver.exists_shows addr hRequest with
    ⟨bytes, hWritten, hClient⟩
  have hBytes : bytes = passed.flatMap Packet.payload := by
    have hAll :
        Event.written
            (x.receiver.onPacket packet addr).trace =
          (x.delivered ++ passed).flatMap Packet.payload := by
      rw [← hPasses.delivered]
      exact hNext.written_eq_take
    rw [hAll, List.flatMap_append,
      hJoined.written_eq_take] at hWritten
    exact (List.append_cancel_left hWritten).symm
  rw [hClient, hPasses.delivered, hShown.client]
  rcases hPassed with ⟨hCompletes, hOne⟩ | ⟨hNot, hOpen⟩
  · rw [if_pos hCompletes, hBytes, hOne,
      Client.ofPackets_append_singleton,
      List.flatMap_singleton]
    unfold Client.deliver
    rw [if_pos hCompletes.2.2.1]
  · rw [if_neg hNot, hBytes, Client.ofPackets_append hOpen]

/-
  A packet arrives at a receiver that is connected to the
  sender.
-/
structure Arrives
    (x : Session)
    (packet : Packet) : Prop where
  built : x.sender.Built packet.seq packet
  request : (getAckKind packet.kind).isSome
  roomy : x.receiver.Roomy packet
  state : x.receiver.state ≠ .idle
  settled : x.receiver.Settled

/- A `DataStop` that is delivered has just arrived. -/
theorem completes_of_stop
    {p : Packet}
    {n : Nat}
    (addr : SocketAddr)
    (hArrives : Arrives x packet)
    (hCurrent : Current G x)
    (hShown : Shown x)
    (hScripted : Scripted x.sender)
    (hLow : x.receiver.window.1 ≤ n)
    (hHigh : n < (x.receiver.onPacket packet addr).window.1)
    (hBuilt : x.sender.Built n p)
    (hStop : p.kind = .dataStop) :
    x.receiver.Completes packet addr := by
  have hNext : n ≤ x.receiver.window.1 :=
    hCurrent.requests n p hBuilt
      (by rw [hStop]; exact fun hKind => by cases hKind)
  have hNumber : n = x.receiver.window.1 :=
    le_antisymm hNext hLow
  have hExpected :
      packet.seq = x.receiver.window.1 ∧
        x.receiver.InWindow packet.seq := by
    by_contra hOther
    have hSame :=
      Receiver.lower_onPacket_of_ne addr hArrives.request
        hArrives.roomy hArrives.state hArrives.settled
        (fun hSeq hInside => hOther ⟨hSeq, hInside⟩)
    omega
  have hPacket : packet = p := by
    have hSent := hArrives.built
    unfold Built at hSent hBuilt
    rw [hExpected.1, ← hNumber, hBuilt] at hSent
    exact (Option.some.inj hSent).symm
  have hState :=
    state_of_expected hShown hScripted (hNumber ▸ hBuilt)
  rw [hStop] at hState
  refine ⟨hState, hExpected.2, hPacket ▸ hStop, ?_⟩
  rw [hExpected.1, ← hNumber]
  exact hHigh

/- And it is delivered alone. -/
theorem passed_of_completes
    {passed : List Packet}
    {addr : SocketAddr}
    (hArrives : Arrives x packet)
    (hCurrent : Current G x)
    (hJoined : Joined x)
    (hShown : Shown x)
    (hScripted : Scripted x.sender)
    (hPasses :
      Passes x (x.receiver.onPacket packet addr) passed)
    (hCompletes : x.receiver.Completes packet addr) :
    passed = [packet] := by
  obtain ⟨hState, hInside, hStop, hDelivered⟩ := hCompletes
  have hBuilt := hArrives.built
  have hNext : packet.seq ≤ x.receiver.window.1 :=
    hCurrent.requests packet.seq packet hBuilt
      (by rw [hStop]; exact fun hKind => by cases hKind)
  have hSeq : packet.seq = x.receiver.window.1 :=
    le_antisymm hNext hInside.1
  rw [hSeq] at hBuilt hDelivered
  rcases List.getElem?_eq_some_iff.mp hBuilt with
    ⟨hLess, hGet⟩
  have hTake :
      x.sender.history.packets.take
          (x.receiver.window.1 + 1) =
        x.delivered ++ [packet] := by
    rw [List.take_succ_eq_append_getElem hLess, hGet]
    rfl
  -- The next packet would be data, behind a `DataStop`.
  have hLast :
      (x.receiver.onPacket packet addr).window.1 =
        x.receiver.window.1 + 1 := by
    by_contra hMore
    have hHeld :=
      (Receiver.lower_onPacket_of_eq addr hArrives.request
        hArrives.roomy hArrives.state hArrives.settled hSeq
        hInside).2.1 (x.receiver.window.1 + 1) (by omega)
          (by omega)
    rcases hJoined.originals.exists_built
        (hJoined.held_lt hHeld) with
      ⟨p, hAhead⟩
    have hData :=
      hCurrent.kindAt_of_above
        (Nat.lt_succ_self x.receiver.window.1)
    rw [kindAt_of_built hAhead] at hData
    have hNeeds := hScripted.kinds _ p hAhead
    rw [hData, hTake, controlOf_append_singleton,
      ← hShown.state, hState, hStop] at hNeeds
    cases hNeeds
  have hNow := hPasses.delivered
  unfold delivered at hNow
  dsimp only at hNow
  rw [hLast, hTake] at hNow
  exact (List.append_cancel_left hNow).symm

/- What a connected receiver delivers is shown. -/
theorem shown_onPacket
    (addr : SocketAddr)
    (hArrives : Arrives x packet)
    (hCurrent : Current G x)
    (hJoined : Joined x)
    (hNext :
      Joined
        { x with
          receiver := x.receiver.onPacket packet addr })
    (hShown : Shown x)
    (hScripted : Scripted x.sender) :
    Shown
      { x with
        receiver := x.receiver.onPacket packet addr } := by
  have hLength := hJoined.originals.length
  have hOldLe := hJoined.first_le
  have hNewLe := hNext.first_le
  dsimp only at hNewLe
  have hFirst :=
    (Receiver.held_onPacket addr hArrives.request
      hArrives.roomy hArrives.state hArrives.settled).2
  have hFollows :
      x.receiver.Follows x.sender.kindAt 0 :=
    hShown.state.trans
      (controlFrom_kindAt (by omega)).symm
  have hState :=
    (Receiver.follows_onPacket addr hArrives.request
      hArrives.roomy hArrives.state hArrives.settled
      (Nat.zero_le _) (kindAt_of_built hArrives.built).symm
      hFollows).mpr (hCurrent.inOrder hArrives.built)
  rcases exists_passes hJoined hFirst with
    ⟨passed, hPasses⟩
  refine ⟨hState.trans (controlFrom_kindAt (by omega)), ?_⟩
  apply client_onPacket addr hShown hJoined hNext
    hArrives.request hPasses
  by_cases hCompletes : x.receiver.Completes packet addr
  · exact Or.inl ⟨hCompletes,
      passed_of_completes hArrives hCurrent hJoined hShown
        hScripted hPasses hCompletes⟩
  · refine Or.inr ⟨hCompletes, ?_⟩
    intro p hMember hStop
    obtain ⟨n, hLow, hHigh, hBuilt⟩ :=
      hPasses.built p hMember
    exact hCompletes
      (completes_of_stop addr hArrives hCurrent hShown
        hScripted hLow hHigh hBuilt hStop)

/- So is the connection request. -/
theorem shown_opening
    (addr : SocketAddr)
    (hJoined : Joined x)
    (hNext :
      Joined
        { x with
          receiver := x.receiver.onPacket packet addr })
    (hShown : Shown x)
    (hOpening : Opening x.sender)
    (hFresh :
      x.receiver =
        Receiver.fresh x.receiver.maxWindowSize
          x.sender.selectiveRepeat)
    (hBuilt : x.sender.Built packet.seq packet)
    (hRoom :
      x.sender.window.upperBound +
        x.receiver.maxWindowSize < 2 ^ 32) :
    Shown
      { x with
        receiver := x.receiver.onPacket packet addr } := by
  have hLength := hJoined.originals.length
  have hNewLe := hNext.first_le
  dsimp only at hNewLe
  obtain ⟨hPackets, hKind, hSeq⟩ :=
    eq_of_opening hOpening hBuilt
  have hRequest := (hJoined.originals.inRange hBuilt).2
  have hStream : x.sender.kindAt packet.seq = .connReq := by
    rw [kindAt_of_built hBuilt, hKind]
  have hFollowing :
      Receiver.Following x.sender.kindAt packet.seq
        (x.receiver.onPacket packet addr) := by
    have hSum :
        packet.seq + x.receiver.maxWindowSize < 2 ^ 32 := by
      omega
    rw [hFresh]
    exact
      @Receiver.following_connReq x.receiver.maxWindowSize
        x.sender.selectiveRepeat x.sender.kindAt
        (packet, addr) hJoined.size hKind hStream hSum
  have hFirst :
      x.receiver.window.1 ≤
        (x.receiver.onPacket packet addr).window.1 := by
    rw [hFresh]
    exact Nat.zero_le _
  have hState := hFollowing.follows
  rw [hSeq] at hState
  rcases exists_passes hJoined hFirst with
    ⟨passed, hPasses⟩
  refine ⟨hState.trans (controlFrom_kindAt (by omega)), ?_⟩
  apply client_onPacket addr hShown hJoined hNext hRequest
    hPasses
  refine Or.inr ⟨?_, ?_⟩
  · intro hCompletes
    have hReceiving := hCompletes.1
    rw [hFresh] at hReceiving
    cases hReceiving
  · intro p hMember hStop
    obtain ⟨n, _, _, hOld⟩ := hPasses.built p hMember
    have hOnly := List.mem_of_getElem? hOld
    rw [hPackets, List.mem_singleton] at hOnly
    rw [hOnly, hKind] at hStop
    cases hStop

end Session

end Nkurdt

------------------------------------------------------------
-- Runs
------------------------------------------------------------

namespace Nkurdt

namespace Session

open Sender
open Runs

variable {G : Request → Prop}

structure Filed
    (G : Request → Prop)
    (x : Session) : Prop where
  tracked : Tracked G x
  scripted : Scripted x.sender
  shown : Shown x

theorem filed_step
    {x x' : Session}
    {action : Action}
    (hGuards : ∀ r, r ≠ .push → G r)
    (hFiled : Filed G x)
    (hStep : x.step action = some x')
    (hOwned : Owned G x action x') :
    Filed G x' := by
  obtain ⟨hTracked, hScripted, hShown⟩ := hFiled
  have hUndisturbed := hOwned.toUndisturbed
  have hNext := tracked_step hGuards hTracked hStep hOwned
  have hJoined := hTracked.joined
  cases action with
  | sender action =>
      rcases Option.map_eq_some_iff.mp hStep with
        ⟨s', hSender, rfl⟩
      refine ⟨hNext, ?_,
        shown_senderStep hShown hJoined hSender⟩
      apply scripted_step hScripted hJoined.streamed
        hJoined.originals hJoined.answering hJoined.running
        hSender
      intro call hCall
      subst hCall
      exact hUndisturbed.follows
  | receive result =>
      cases hStep
      rcases recvStep_of_carries hJoined.originals
          hUndisturbed.delivers with
        hSame | ⟨packet, addr, hBuilt, hLooping, hArrival⟩
      · rw [hSame]
        exact ⟨hTracked, hScripted, hShown⟩
      · rw [hArrival] at hNext hUndisturbed ⊢
        have hRoom := hUndisturbed.room
        refine ⟨hNext, hScripted, ?_⟩
        have hSeq := hJoined.originals.lt_upperBound hBuilt
        rcases hJoined.served with
          ⟨hOpening, hFresh⟩ | hServing
        · exact shown_opening addr hJoined hNext.joined
            hShown hOpening hFresh hBuilt hRoom
        · have hState :=
            (hServing.open_of_looping hLooping).2
          have hArrives : Arrives x packet :=
            { built := hBuilt
              request := (hJoined.originals.inRange hBuilt).2
              roomy := by
                unfold Receiver.Roomy
                omega
              state := hState
              settled := hServing.settled }
          exact shown_onPacket addr hArrives hTracked.current
            hJoined hNext.joined hShown hScripted

theorem filed_of_reaches
    {config : SenderConfig}
    {w : Nat}
    {x : Session}
    (hGuards : ∀ r, r ≠ .push → G r)
    (hSize : 1 ≤ w)
    (hReach : Reaches step (Owned G) (fresh config w) x) :
    Filed G x :=
  hReach.invariant
    ⟨⟨joined_fresh config hSize,
        current_fresh G config w⟩,
      scripted_fresh config, shown_fresh config w⟩
    (fun _ _ _ hCurrent hNext hAllowed =>
      filed_step hGuards hCurrent hNext hAllowed)

end Session

end Nkurdt

------------------------------------------------------------
-- Files and Streams
------------------------------------------------------------

namespace Nkurdt

namespace Session

open Sender
open Runs

/- How many `DataStop` packets have been delivered. -/
def stopsDelivered (x : Session) : Nat :=
  x.delivered.countP fun p => decide (p.kind = .dataStop)

/- The files are streams, from the first one on. -/
theorem Filed.files_prefix
    {G : Request → Prop}
    {x : Session}
    (hFiled : Filed G x) :
    (Client.ofTrace x.receiver.trace).files <+:
      x.sender.history.streams := by
  have hPackets :
      x.delivered ++
          x.sender.history.packets.drop x.receiver.window.1 =
        x.sender.history.packets :=
    List.take_append_drop _ _
  have hPrefix :=
    Client.files_prefix_ofPackets x.delivered
      (x.sender.history.packets.drop x.receiver.window.1)
  rw [hPackets] at hPrefix
  rw [hFiled.shown.client, ← hFiled.scripted.files]
  exact hPrefix.trans (List.prefix_append _ _)

/-
  As long as no stale answer ends the wait for a `DataStop`,
  the coroutine has yielded `true` once for every `DataStop`
  that is delivered, and the files that the client has
  written are the streams of the same number of calls of
  `send`. Between two calls they are all streams so far.
-/
theorem files_eq_streams
    {config : SenderConfig}
    {w : Nat}
    {x : Session}
    (hSize : 1 ≤ w)
    (hReach :
      Reaches step (Owned fun r => r ≠ .push)
        (fresh config w) x) :
    x.receiver.trace.count (.yield true) =
        x.stopsDelivered ∧
      x.stopsDelivered ≤ x.sender.history.streams.length ∧
      (Client.ofTrace x.receiver.trace).files =
        x.sender.history.streams.take x.stopsDelivered ∧
      (x.sender.callerPc = .idle →
        Client.ofTrace x.receiver.trace =
          ⟨[], x.sender.history.streams⟩) := by
  have hFiled :=
    filed_of_reaches (fun _ hOther => hOther) hSize hReach
  have hPrefix := hFiled.files_prefix
  obtain ⟨⟨hJoined, hCurrent⟩, hScripted, hShown⟩ :=
    hFiled
  have hCount :
      (Client.ofTrace x.receiver.trace).files.length =
        x.stopsDelivered := by
    rw [hShown.client, Client.length_files_ofPackets]
    rfl
  refine ⟨?_, ?_, ?_, ?_⟩
  · rw [← Client.length_files_ofTrace]
    exact hCount
  · rw [← hCount]
    exact hPrefix.length_le
  · rw [← hCount]
    exact List.prefix_iff_eq_take.mp hPrefix
  · intro hIdle
    have hAll : x.delivered = x.sender.history.packets := by
      apply List.take_of_length_le
      rw [hJoined.originals.length]
      apply hCurrent.caught
      rw [hIdle]
      trivial
    have hFiles := hScripted.files
    have hClosed := hScripted.closed
    unfold openFile at hFiles
    rw [hIdle] at hFiles hClosed
    rw [hShown.client, hAll]
    have hUnread := hClosed rfl
    have hWhole :
        (Client.ofPackets
            x.sender.history.packets).files =
          x.sender.history.streams :=
      (List.append_nil _).symm.trans hFiles
    rw [← hUnread, ← hWhole]

/- The three bytes are sent to their `DataStop`. -/
def stopping : List Action :=
  steps .caller 1 ++
    [.sender (.tick 1000000)] ++
    steps .caller 11 ++
    exchange ((Transfer.request .stop).packet 3)
      .dataStopAck 4 13 ++
    steps .caller 3

theorem exists_stopped :
    ∃ x,
      Reaches step (Owned fun r => r ≠ .push)
        (fresh ⟨1, 0, 1, false, false⟩ 1) x ∧
      (x.sender.callerPc = .idle ∧
        x.stopsDelivered = 1 ∧
        x.sender.history.streams = [[1, 2, 3]]) :=
  exists_reaches_of_runActions
    (connecting ++ sending ++ stopping)
    (by decide +kernel)

/- They are one file. -/
theorem files_eq_streams_stopped :
    ∃ x,
      Reaches step (Owned fun r => r ≠ .push)
        (fresh ⟨1, 0, 1, false, false⟩ 1) x ∧
      x.receiver.trace.count (.yield true) = 1 ∧
      Client.ofTrace x.receiver.trace =
        ⟨[], [[1, 2, 3]]⟩ := by
  rcases exists_stopped with
    ⟨x, hReach, hIdle, hStops, hStreams⟩
  have hFiles := files_eq_streams (by decide) hReach
  obtain ⟨hCount, _, _, hAll⟩ := hFiles
  refine ⟨x, hReach, hCount.trans hStops, ?_⟩
  rw [hAll hIdle, hStreams]

/-
  Three empty streams. The `DataStop` of the second one is
  still queued when an old acknowledgement ends the wait for
  it, and the next `DataPush` overtakes it: it arrives in
  the receiving state, where it changes nothing.
-/
def overtaking : List Action :=
  connecting ++ emptySend 1 ++
    exchange ((Transfer.request .stop).packet 2)
      .dataStopAck 3 13 ++
    steps .caller 3 ++
    emptySend 3 ++
    answer .dataStopAck 3 12 ++
    steps .caller 3 ++
    [.sender (.call (.send .eof))] ++
    steps .caller 10 ++
    steps .sendHandler 26 ++
    [arrives ((Transfer.request .push).packet 5),
      arrives ((Transfer.request .stop).packet 4)] ++
    answer .dataPushAck 4 12 ++
    answer .dataStopAck 6 9 ++
    steps .caller 3 ++
    [.sender (.tick 1000000)] ++
    steps .caller 13 ++
    exchange ((Transfer.request .stop).packet 6)
      .dataStopAck 7 13 ++
    steps .caller 3

/-
  All calls have returned with success, and the third file
  is missing.
-/
theorem exists_files_missing :
    ∃ x,
      Reaches step Connected
        (fresh ⟨2, 0, 1, false, false⟩ 2) x ∧
      (x.sender.callerPc = .idle ∧
        x.sender.history.results =
          [.success, .success, .success, .success] ∧
        x.stopsDelivered = 3 ∧
        x.sender.history.streams = [[], [], []] ∧
        x.receiver.trace.count (.yield true) = 2 ∧
        (Client.ofTrace x.receiver.trace).files = [[], []]) :=
  exists_reaches_of_runActions overtaking
    (by decide +kernel)

end Session

end Nkurdt
