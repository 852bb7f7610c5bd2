import Nkurdt.Receiver.Buffer

/-
  Packets of a kind that the state of the receiver does not
  accept.

  The switch only clears `reply_ack`, which nothing reads, so
  such a packet is buffered, slid over and acknowledged like
  any other. It has no effect exactly when there is nothing
  left to do with it: no connection has been set up and its
  number is buffered already.

  Main declarations:
    * `Receiver.resultStep`
    * `Receiver.AtHead`
    * `ReceiverState.Accepts`
    * `Receiver.NoEffect`
    * `Receiver.noEffect_iff`
-/

------------------------------------------------------------
-- Sliding From a Stuck Receiver
------------------------------------------------------------

namespace Nkurdt

namespace Receiver

theorem slideStep_eq_none_iff
    {r : Receiver} :
    r.slideStep = none ↔
      ∀ first, r.recvBuffer.first? = some first →
        first.seq ≠ r.window.1 := by
  unfold slideStep
  cases hFirst : r.recvBuffer.first? with
  | none => simp
  | some first =>
      by_cases hExpected : first.seq = r.window.1
      · simp [hExpected]
      · simp [hExpected]

/- A stuck receiver does not slide. -/
theorem slide_of_stuck
    (rounds : Nat)
    {r : Receiver}
    (hStuck : r.slideStep = none) :
    r.slide rounds = r := by
  cases rounds with
  | zero => rfl
  | succ rounds =>
      unfold slide
      rw [hStuck]

/- Buffering another number than the expected one. -/
theorem stuck_insert
    {r : Receiver}
    {packet : Packet}
    (hStuck : r.slideStep = none)
    (hNumber : packet.seq ≠ r.window.1) :
    slideStep { r with
      recvBuffer := r.recvBuffer.insert packet } =
      none := by
  rw [slideStep_eq_none_iff] at hStuck ⊢
  intro first hFirst hExpected
  have hLeast := OrderedSet.first?_eq_some hFirst
  rcases OrderedSet.mem_insert_iff.mp hLeast.1 with
    hOld | ⟨rfl, _⟩
  · cases hBefore : r.recvBuffer.first? with
    | none =>
        exact OrderedSet.first?_eq_none hBefore first hOld
    | some before =>
        have hLeastBefore :=
          OrderedSet.first?_eq_some hBefore
        have hBelow := hLeastBefore.2 first hOld
        have hAbove := hLeast.2 before
          (OrderedSet.mem_insert_of_mem hLeastBefore.1)
        have hOther := hStuck before hBefore
        dsimp only at hExpected
        omega
  · exact hNumber hExpected

theorem insertAndSlide_of_ne
    {r : Receiver}
    {packet : Packet}
    (hStuck : r.slideStep = none)
    (hNumber : packet.seq ≠ r.window.1) :
    r.insertAndSlide packet =
      { r with
        recvBuffer := r.recvBuffer.insert packet } :=
  slide_of_stuck _ (stuck_insert hStuck hNumber)

/- Buffering a number that is buffered already. -/
theorem insertAndSlide_of_not_missing
    {r : Receiver}
    {packet : Packet}
    (hStuck : r.slideStep = none)
    (hBuffered : ¬ r.Missing packet.seq) :
    r.insertAndSlide packet = r := by
  unfold Missing at hBuffered
  push Not at hBuffered
  obtain ⟨p, hMember, hNumber⟩ := hBuffered
  have hInsert :
      r.recvBuffer.insert packet = r.recvBuffer :=
    OrderedSet.insert_of_key_mem hMember hNumber
  unfold insertAndSlide
  rw [hInsert]
  exact slide_of_stuck _ hStuck

/- Sliding only takes packets out of the buffer. -/
theorem mem_of_mem_slide
    {rounds : Nat}
    {r : Receiver}
    {p : Packet}
    (hMember : p ∈ (r.slide rounds).recvBuffer) :
    p ∈ r.recvBuffer := by
  let Inv (current : Receiver) : Prop :=
    p ∈ current.recvBuffer → p ∈ r.recvBuffer
  have hStep :
      ∀ current next,
        Inv current →
        current.slideStep = some next →
        Inv next := by
    intro current next hCurrent hStep hNext
    rcases slideStep_eq_some hStep with
      ⟨first, hFirst, _, rfl⟩
    exact hCurrent
      ((OrderedSet.mem_eraseFirst_iff hFirst).mp hNext).1
  exact slide_invariant hStep rounds (fun hOld => hOld)
    hMember

/- A round takes the expected packet out for good. -/
theorem not_mem_slide
    {r next : Receiver}
    (hStep : r.slideStep = some next)
    {rounds : Nat}
    (hRounds : rounds ≠ 0) :
    ∃ first ∈ r.recvBuffer,
      first.seq = r.window.1 ∧
        first ∉ (r.slide rounds).recvBuffer := by
  rcases slideStep_eq_some hStep with
    ⟨first, hFirst, hExpected, hNext⟩
  refine ⟨first, (OrderedSet.first?_eq_some hFirst).1,
    hExpected, ?_⟩
  obtain ⟨rounds, rfl⟩ := Nat.exists_eq_succ_of_ne_zero hRounds
  intro hMember
  unfold slide at hMember
  rw [hStep] at hMember
  have hErased := mem_of_mem_slide hMember
  rw [hNext] at hErased
  exact ((OrderedSet.mem_eraseFirst_iff hFirst).mp
    hErased).2 rfl

/- A receiver with a round to do has something buffered. -/
theorem size_ne_zero_of_slideStep
    {r next : Receiver}
    (hStep : r.slideStep = some next) :
    r.recvBuffer.size ≠ 0 := by
  rcases slideStep_eq_some hStep with ⟨first, hFirst, _, _⟩
  have hSize := OrderedSet.size_eraseFirst hFirst
  omega

end Receiver

end Nkurdt

------------------------------------------------------------
-- Receivers at the Head of the Loop
------------------------------------------------------------

namespace Nkurdt

namespace Receiver

open Runs

/- An iteration on any result of the socket. -/
def resultStep
    (r : Receiver)
    (result : RecvResult) : Option Receiver :=
  if r.status = .looping ∧ r.running then
    some (r.recvStep result)
  else
    none

/-
  What holds at the head of the loop, whatever has arrived.
  Before the first connection the window stays at zero,
  since a packet that slides it ends the loop.
-/
structure AtHead (r : Receiver) : Prop where
  stuck : r.slideStep = none
  peer : r.state ≠ .idle → r.peerAddr.isSome
  lower :
    r.peerAddr = none → r.status = .looping →
      r.window.1 = 0

theorem atHead_fresh
    (w : Nat)
    (selectiveRepeat : Bool) :
    AtHead (fresh w selectiveRepeat) := by
  refine ⟨rfl, ?_, ?_⟩
  · intro hState
    exact absurd rfl hState
  · intro _ _
    rfl

/- The slide loop reads the window and the buffer only. -/
theorem slideStep_congr
    {r r' : Receiver}
    (hStuck : r.slideStep = none)
    (hWindow : r'.window = r.window)
    (hBuffer : r'.recvBuffer = r.recvBuffer) :
    r'.slideStep = none := by
  rw [slideStep_eq_none_iff] at hStuck ⊢
  rw [hWindow, hBuffer]
  exact hStuck

/- The switch enters a session with a known peer only. -/
theorem peer_switchState
    {r : Receiver}
    {packet : Packet}
    {addr : SocketAddr}
    (hHead : r.AtHead)
    (hState :
      (r.switchState packet addr).1.state ≠ .idle) :
    (r.switchState packet addr).1.peerAddr.isSome := by
  by_cases hIdle : r.state = .idle
  · unfold switchState at hState ⊢
    rw [hIdle] at hState ⊢
    dsimp only at hState ⊢
    split_ifs at hState ⊢ with hKind
    · rfl
    · exact absurd hIdle hState
  · rw [(switchState_of_not_idle packet addr hIdle).2]
    exact hHead.peer hIdle

/- Without a peer the switch has not done anything. -/
theorem switchState_of_no_peer
    {r : Receiver}
    {packet : Packet}
    {addr : SocketAddr}
    (hHead : r.AtHead)
    (hPeer : (r.switchState packet addr).1.peerAddr = none) :
    r.peerAddr = none ∧
      r.state = .idle ∧
      (r.switchState packet addr).1 = r := by
  by_cases hIdle : r.state = .idle
  · unfold switchState at hPeer ⊢
    rw [hIdle] at hPeer ⊢
    dsimp only at hPeer ⊢
    split_ifs at hPeer ⊢ with hKind
    · exact ⟨hPeer, rfl, rfl⟩
  · rw [(switchState_of_not_idle packet addr hIdle).2]
      at hPeer
    have hSome := hHead.peer hIdle
    rw [hPeer] at hSome
    cases hSome

theorem atHead_accept
    {r : Receiver}
    {packet : Packet}
    (ackKind : PacketKind)
    (addr : SocketAddr)
    (hHead : r.AtHead)
    (hLooping : r.status = .looping) :
    (r.accept packet ackKind addr).AtHead := by
  rw [accept_eq]
  refine ⟨?_, ?_, ?_⟩
  · exact slideStep_congr
      (slideStep_insertAndSlide
        (r.switchState packet addr).1 packet) rfl rfl
  · dsimp only
    rw [state_insertAndSlide, peerAddr_insertAndSlide]
    exact peer_switchState hHead
  · dsimp only
    rw [state_insertAndSlide, peerAddr_insertAndSlide]
    intro hPeer hStatus
    obtain ⟨hNone, hIdle, hSame⟩ :=
      switchState_of_no_peer hHead hPeer
    rw [hSame] at hStatus ⊢
    have hLower := hHead.lower hNone hLooping
    by_cases hNumber : packet.seq = r.window.1
    · by_contra hMoved
      rw [if_pos ⟨hIdle, by omega⟩] at hStatus
      cases hStatus
    · rw [insertAndSlide_of_ne hHead.stuck hNumber]
      exact hLower

/- An ack is skipped; what is no request at all throws. -/
theorem onPacket_of_no_ackKind
    {r : Receiver}
    {packet : Packet}
    (addr : SocketAddr)
    (hAck : getAckKind packet.kind = none) :
    r.onPacket packet addr = r ∨
      r.onPacket packet addr = { r with status := .threw } := by
  unfold onPacket
  by_cases hIsAck : packet.isAck = true
  · rw [if_pos hIsAck]
    exact Or.inl rfl
  · rw [if_neg hIsAck, hAck]
    exact Or.inr rfl

theorem atHead_onPacket
    {r : Receiver}
    {packet : Packet}
    {addr : SocketAddr}
    (hHead : r.AtHead)
    (hLooping : r.status = .looping) :
    (r.onPacket packet addr).AtHead := by
  have hReply :
      ∀ ackKind seq, (r.reply ackKind seq).AtHead := by
    intro ackKind seq
    rw [reply_eq]
    exact ⟨slideStep_congr hHead.stuck rfl rfl,
      hHead.peer, hHead.lower⟩
  cases hAck : getAckKind packet.kind with
  | none =>
      rcases onPacket_of_no_ackKind addr hAck with
        hStep | hStep
      · rw [hStep]
        exact hHead
      · rw [hStep]
        refine ⟨slideStep_congr hHead.stuck rfl rfl,
          hHead.peer, ?_⟩
        intro _ hThrew
        cases hThrew
  | some ackKind =>
      rcases onPacket_cases addr hAck with
        ⟨_, _, hStep⟩ | ⟨_, _, _, hStep⟩ | ⟨_, hStep⟩
      · rw [hStep]
        exact hReply _ _
      · rw [hStep]
        split_ifs
        · exact hHead
        · exact hReply _ _
      · rw [hStep]
        exact atHead_accept ackKind addr hHead hLooping

/- The four things an iteration can do. -/
theorem resultStep_cases
    {r next : Receiver}
    {result : RecvResult}
    (hStep : r.resultStep result = some next) :
    r.status = .looping ∧ r.running = true ∧
      (next = r ∨
        (∃ value,
          result = .error value ∧
          isFatalError value = true ∧
          next = finish { r with running := false }) ∨
        (∃ bytes addr,
          result = .datagram bytes addr ∧
          Packet.fromBytes bytes = none ∧
          next = { r with status := .undefined }) ∨
        ∃ bytes addr packet,
          result = .datagram bytes addr ∧
          Packet.fromBytes bytes = some (some packet) ∧
          next = r.onPacket packet addr) := by
  unfold resultStep at hStep
  split_ifs at hStep with hRuns
  refine ⟨hRuns.1, hRuns.2, ?_⟩
  obtain rfl := Option.some.inj hStep
  unfold recvStep
  rw [if_pos hRuns]
  cases result with
  | error value =>
      dsimp only
      split_ifs with hFatal
      · exact Or.inr (Or.inl ⟨value, rfl, hFatal, rfl⟩)
      · exact Or.inl rfl
  | datagram bytes addr =>
      dsimp only
      cases hDecode : Packet.fromBytes bytes with
      | none =>
          exact Or.inr (Or.inr (Or.inl
            ⟨bytes, addr, rfl, hDecode, rfl⟩))
      | some decoded =>
          cases decoded with
          | none => exact Or.inl rfl
          | some packet =>
              exact Or.inr (Or.inr (Or.inr
                ⟨bytes, addr, packet, rfl, hDecode, rfl⟩))

theorem atHead_resultStep
    {r next : Receiver}
    {result : RecvResult}
    (hHead : r.AtHead)
    (hStep : r.resultStep result = some next) :
    next.AtHead := by
  obtain ⟨hLooping, _, hCases⟩ := resultStep_cases hStep
  rcases hCases with
    rfl | ⟨_, _, _, rfl⟩ | ⟨_, _, _, _, rfl⟩ |
      ⟨_, addr, packet, _, _, rfl⟩
  · exact hHead
  · refine ⟨slideStep_congr hHead.stuck rfl rfl,
      hHead.peer, ?_⟩
    intro _ hEnded
    cases hEnded
  · refine ⟨slideStep_congr hHead.stuck rfl rfl,
      hHead.peer, ?_⟩
    intro _ hUndefined
    cases hUndefined
  · exact atHead_onPacket hHead hLooping

/- Every receiver that the loop can reach. -/
theorem atHead_of_reaches
    {w : Nat}
    {selectiveRepeat : Bool}
    {r : Receiver}
    (hReach :
      Reaches resultStep (fun _ _ _ => True)
        (fresh w selectiveRepeat) r) :
    r.AtHead :=
  hReach.invariant (atHead_fresh w selectiveRepeat)
    (fun _ _ _ hCurrent hStep _ =>
      atHead_resultStep hCurrent hStep)

end Receiver

end Nkurdt

------------------------------------------------------------
-- Kinds the State Does Not Accept
------------------------------------------------------------

namespace Nkurdt

/- The kinds that the switch has a transition for. -/
def ReceiverState.Accepts :
    ReceiverState → PacketKind → Prop
| .idle, kind => kind = .connReq
| .connected, kind =>
    kind = .dataPush ∨ kind = .disconnReq
| .receiving, kind => kind = .data ∨ kind = .dataStop

namespace Receiver

open Runs

/-
  An iteration that neither the peer, the client nor a later
  iteration can tell from none at all.
-/
structure NoEffect (r next : Receiver) : Prop where
  window : next.window = r.window
  recvBuffer : next.recvBuffer = r.recvBuffer
  state : next.state = r.state
  written :
    Event.written next.trace = Event.written r.trace
  replies :
    Event.replies next.trace = Event.replies r.trace
  status : next.status = r.status

/- The switch leaves the receiver alone. -/
theorem switchState_of_rejected
    {r : Receiver}
    {packet : Packet}
    (addr : SocketAddr)
    (hRejected : ¬ r.state.Accepts packet.kind) :
    r.switchState packet addr = (r, false, false) := by
  unfold switchState
  cases hState : r.state with
  | idle =>
      rw [hState] at hRejected
      exact if_neg hRejected
  | connected =>
      rw [hState] at hRejected
      have hKinds := not_or.mp hRejected
      dsimp only
      rw [if_neg hKinds.1, if_neg hKinds.2]
  | receiving =>
      rw [hState] at hRejected
      have hKinds := not_or.mp hRejected
      dsimp only
      rw [if_neg hKinds.1, if_neg hKinds.2]

/- What is left of the iteration behind the switch. -/
theorem accept_of_rejected
    {r : Receiver}
    {packet : Packet}
    (ackKind : PacketKind)
    (addr : SocketAddr)
    (hRejected : ¬ r.state.Accepts packet.kind) :
    r.accept packet ackKind addr =
      let slid := r.insertAndSlide packet
      { slid with
        trace :=
          slid.trace ++
            slid.acceptEvents packet ackKind false
        status :=
          if slid.state = .idle ∧
              packet.seq < slid.window.1 then
            .ended
          else
            slid.status } := by
  rw [accept_eq, switchState_of_rejected addr hRejected]

/- A number that is new to the buffer leaves a trace there. -/
theorem not_missing_of_noEffect
    {r : Receiver}
    {packet : Packet}
    (hStuck : r.slideStep = none)
    (hLower : r.window.1 = 0)
    (hWindow :
      (r.insertAndSlide packet).window = r.window)
    (hBuffer :
      (r.insertAndSlide packet).recvBuffer =
        r.recvBuffer) :
    ¬ r.Missing packet.seq := by
  intro hMissing
  have hInserted :
      packet ∈ r.recvBuffer.insert packet :=
    OrderedSet.mem_insert_iff.mpr (Or.inr ⟨rfl, hMissing⟩)
  by_cases hNumber : packet.seq = r.window.1
  · -- the packet is the first one and slides the window
    let inserted : Receiver :=
      { r with recvBuffer := r.recvBuffer.insert packet }
    have hSlid :
        r.insertAndSlide packet =
          inserted.slide inserted.recvBuffer.size :=
      rfl
    rw [hSlid] at hWindow hBuffer
    cases hStep : inserted.slideStep with
    | none =>
        rw [slide_of_stuck _ hStep] at hBuffer
        have hOld : packet ∈ r.recvBuffer := by
          rw [← hBuffer]
          exact hInserted
        exact hMissing packet hOld rfl
    | some next =>
        rcases slideStep_eq_some hStep with
          ⟨first, hFirst, hExpected, hNext⟩
        have hSize := OrderedSet.size_eraseFirst hFirst
        have hErased :
            next.recvBuffer.size + 1 =
              inserted.recvBuffer.size := by
          rw [hNext]
          exact hSize.symm
        rw [← hErased, slide, hStep] at hWindow hBuffer
        cases hAgain : next.slideStep with
        | none =>
            have hLowerNext : next.window.1 = 1 := by
              rw [hNext]
              change SequenceNumber.update r.window.1 = 1
              rw [hLower]
              rfl
            dsimp only at hWindow
            rw [slide_of_stuck _ hAgain] at hWindow
            rw [hWindow] at hLowerNext
            omega
        | some after =>
            -- a second round takes an old packet out
            obtain ⟨second, hSecond, _, hGone⟩ :=
              not_mem_slide hAgain
                (size_ne_zero_of_slideStep hAgain)
            dsimp only at hBuffer
            rw [hBuffer] at hGone
            rw [hNext] at hSecond
            have hOther :=
              (OrderedSet.mem_eraseFirst_iff hFirst).mp
                hSecond
            rcases OrderedSet.mem_insert_iff.mp hOther.1 with
              hOld | ⟨rfl, _⟩
            · exact hGone hOld
            · exact hOther.2 (hNumber.trans hExpected.symm)
  · rw [insertAndSlide_of_ne hStuck hNumber] at hBuffer
    dsimp only at hBuffer
    rw [hBuffer] at hInserted
    exact hMissing packet hInserted rfl

/- Without a peer nothing is sent. -/
theorem replyEvents_of_no_peer
    {r : Receiver}
    {ackKind : PacketKind}
    {seq : Nat}
    (hPeer : r.peerAddr = none) :
    r.replyEvents ackKind seq = [] := by
  unfold replyEvents
  rw [hPeer]

/- What an accepted packet sends. -/
theorem replies_accept_of_rejected
    {r : Receiver}
    {packet : Packet}
    (ackKind : PacketKind)
    (addr : SocketAddr)
    (hRejected : ¬ r.state.Accepts packet.kind) :
    Event.replies
        (r.accept packet ackKind addr).trace =
      Event.replies r.trace ++
        Event.replies
          ((r.insertAndSlide packet).replyEvents ackKind
            ((r.insertAndSlide packet).ackNumber
              packet)) := by
  rw [accept_of_rejected ackKind addr hRejected]
  dsimp only
  unfold acceptEvents
  simp only [Event.replies_append, replies_insertAndSlide]
  split_ifs <;> simp

/-
  A packet of a kind that the state does not accept, and that
  is neither a duplicate nor out of the window of a session,
  has no effect exactly when there has been no connection yet
  and its number is buffered already.
-/
theorem noEffect_iff
    {w : Nat}
    {selectiveRepeat : Bool}
    {r next : Receiver}
    {packet : Packet}
    {addr : SocketAddr}
    (hReach :
      Reaches resultStep (fun _ _ _ => True)
        (fresh w selectiveRepeat) r)
    (hNotAck : packet.isAck = false)
    (hRejected : ¬ r.state.Accepts packet.kind)
    (hInside :
      r.state ≠ .idle →
        r.window.1 ≤ packet.seq ∧
          packet.seq < r.window.2)
    (hStep : r.packetStep (packet, addr) = some next) :
    NoEffect r next ↔
      r.state = .idle ∧
        r.peerAddr = none ∧
        (getAckKind packet.kind).isSome ∧
        ¬ r.Missing packet.seq := by
  have hHead := atHead_of_reaches hReach
  unfold packetStep at hStep
  split_ifs at hStep with hRuns
  obtain rfl := Option.some.inj hStep
  dsimp only
  cases hAck : getAckKind packet.kind with
  | none =>
      have hThrew :
          (r.onPacket packet addr).status = .threw := by
        unfold onPacket
        rw [hNotAck, hAck]
        rfl
      constructor
      · intro hNone
        rw [hNone.status, hRuns.1] at hThrew
        cases hThrew
      · rintro ⟨_, _, hSome, _⟩
        cases hSome
  | some ackKind =>
      have hAccept :
          r.onPacket packet addr =
            r.accept packet ackKind addr := by
        rcases onPacket_cases addr hAck with
          ⟨hLow, hState, _⟩ | ⟨_, hHigh, hState, _⟩ |
            ⟨_, hAccept⟩
        · have hBounds := hInside hState
          omega
        · have hBounds := hInside hState
          omega
        · exact hAccept
      rw [hAccept]
      constructor
      · intro hNone
        have hPeer : r.peerAddr = none := by
          have hReplies := hNone.replies
          rw [replies_accept_of_rejected ackKind addr
            hRejected] at hReplies
          have hEmpty := List.append_right_eq_self.mp hReplies
          unfold replyEvents at hEmpty
          rw [peerAddr_insertAndSlide] at hEmpty
          cases hPeer : r.peerAddr with
          | none => rfl
          | some peer =>
              rw [hPeer] at hEmpty
              cases hEmpty
        have hIdle : r.state = .idle := by
          by_contra hState
          have hSome := hHead.peer hState
          rw [hPeer] at hSome
          cases hSome
        have hWindow := hNone.window
        have hBuffer := hNone.recvBuffer
        rw [accept_of_rejected ackKind addr hRejected]
          at hWindow hBuffer
        exact ⟨hIdle, hPeer, rfl,
          not_missing_of_noEffect hHead.stuck
            (hHead.lower hPeer hRuns.1) hWindow hBuffer⟩
      · rintro ⟨hIdle, hPeer, _, hBuffered⟩
        have hSlid :=
          insertAndSlide_of_not_missing hHead.stuck
            hBuffered
        have hLower := hHead.lower hPeer hRuns.1
        have hNotPast : ¬ packet.seq < r.window.1 := by
          omega
        have hSame :
            r.accept packet ackKind addr = r := by
          rw [accept_of_rejected ackKind addr hRejected,
            hSlid]
          unfold acceptEvents
          simp [replyEvents_of_no_peer hPeer, hNotPast]
        rw [hSame]
        exact ⟨rfl, rfl, rfl, rfl, rfl, rfl⟩

/- A request of the program without payload, encoded. -/
def requestBytes
    (kind : PacketKind)
    (seq : Nat) : RecvResult :=
  .datagram (request kind seq).1.toBytes ⟨0, 0⟩

/-
  Data that arrives twice before the connection is buffered
  once; the second arrival has no effect.
-/
theorem noEffect_iff_twice :
    ∃ r next,
      Reaches resultStep (fun _ _ _ => True)
        (fresh 4 true) r ∧
      r.packetStep (request .data 3) = some next ∧
      NoEffect r next := by
  let r := (fresh 4 true).recvStep (requestBytes .data 3)
  have hReach :
      Reaches resultStep (fun _ _ _ => True)
        (fresh 4 true) r := by
    have hStep :
        (fresh 4 true).resultStep (requestBytes .data 3) =
          some r :=
      rfl
    exact Reaches.tail .refl hStep trivial
  have hIdle : r.state = .idle := by decide +kernel
  have hStep :
      r.packetStep (request .data 3) =
        some (r.onPacket (request .data 3).1 ⟨0, 0⟩) :=
    if_pos (by decide +kernel)
  refine ⟨r, _, hReach, hStep, ?_⟩
  refine (noEffect_iff hReach (by decide) ?_ ?_ hStep).mpr
    ⟨hIdle, by decide +kernel, by decide, ?_⟩
  · rw [hIdle]
    intro hAccepts
    cases hAccepts
  · intro hState
    exact absurd hIdle hState
  · intro hMissing
    refine hMissing (request .data 3).1 ?_ rfl
    decide +kernel

/-
  Right after the connection has been set up, a data packet
  is not accepted, but it is written out, slid over and
  acknowledged.
-/
theorem exists_effect :
    ∃ r next,
      Reaches resultStep (fun _ _ _ => True)
        (fresh 4 true) r ∧
      (⟨version, .data, 1, [7]⟩ : Packet).isAck = false ∧
      ¬ r.state.Accepts .data ∧
      r.window.1 ≤ 1 ∧ 1 < r.window.2 ∧
      r.packetStep (⟨version, .data, 1, [7]⟩, ⟨0, 0⟩) =
        some next ∧
      Event.written next.trace ≠
        Event.written r.trace ∧
      Event.replies next.trace ≠
        Event.replies r.trace ∧
      ¬ NoEffect r next := by
  let r := (fresh 4 true).recvStep (requestBytes .connReq 0)
  have hReach :
      Reaches resultStep (fun _ _ _ => True)
        (fresh 4 true) r := by
    have hStep :
        (fresh 4 true).resultStep (requestBytes .connReq 0) =
          some r :=
      rfl
    exact Reaches.tail .refl hStep trivial
  have hState : r.state = .connected := by decide +kernel
  have hWritten :
      Event.written
          (r.onPacket ⟨version, .data, 1, [7]⟩
            ⟨0, 0⟩).trace ≠
        Event.written r.trace := by
    decide +kernel
  refine ⟨r, r.onPacket ⟨version, .data, 1, [7]⟩ ⟨0, 0⟩,
    hReach, rfl, ?_, by decide +kernel, by decide +kernel,
    if_pos (by decide +kernel), hWritten, by decide +kernel,
    fun hNone => hWritten hNone.written⟩
  rw [hState]
  rintro (hKind | hKind)
  · cases hKind
  · cases hKind

end Receiver

end Nkurdt
