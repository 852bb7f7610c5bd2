import Nkurdt.Packet.Accepted
import Nkurdt.Receiver.Rejection

/-
  When the receive loop ends.

  The loop breaks in the idle state on a packet below the
  window, whichever packet brought the receiver there. A run
  is observed together with the request that left the
  connected state for the present idle state: the end is real
  if the window has passed that request.

  Main declarations:
    * `Observed`
    * `Observed.RealEnd`
    * `Observed.KeepsOrder`
    * `Observed.realEnd_of_reaches`
    * `Receiver.finishes_iff`
-/

------------------------------------------------------------
-- Observed Runs
------------------------------------------------------------

namespace Nkurdt

namespace RecvResult

/- The packet that a result is decoded to. -/
def packet? : RecvResult → Option Packet
| .error _ => none
| .datagram bytes _ => (Packet.fromBytes bytes).join

/- The results on which the loop gives up. -/
def isFatal : RecvResult → Bool
| .error value => isFatalError value
| .datagram _ _ => false

end RecvResult

/-
  A receiver with the history that its end is judged by: the
  disconnection request that was taken in the connected state
  and led to the idle state it is in, and whether the socket
  has reported a fatal error.
-/
structure Observed where
  receiver : Receiver
  disconn : Option Packet
  fatal : Bool

namespace Observed

open Runs

def fresh
    (w : Nat)
    (selectiveRepeat : Bool) : Observed :=
  ⟨.fresh w selectiveRepeat, none, false⟩

/- The request behind the idle state after a result. -/
def disconnAfter
    (o : Observed)
    (result : RecvResult) : Option Packet :=
  match result.packet? with
  | none => o.disconn
  | some packet =>
      if o.receiver.state = .connected ∧
          packet.kind = .disconnReq ∧
          o.receiver.window.1 ≤ packet.seq ∧
          packet.seq < o.receiver.window.2 then
        some packet
      else if o.receiver.state = .idle ∧
          packet.kind = .connReq then
        none
      else
        o.disconn

/- An iteration of the loop, observed. -/
def step
    (o : Observed)
    (result : RecvResult) : Option Observed :=
  (o.receiver.resultStep result).map fun next =>
    ⟨next, o.disconnAfter result, o.fatal || result.isFatal⟩

/-
  The loop has a reason to end: a fatal error, or a request
  to disconnect that the window has passed.
-/
def RealEnd (o : Observed) : Prop :=
  o.fatal = true ∨
    ∃ packet ∈ o.disconn,
      packet.kind = .disconnReq ∧
        packet.seq < o.receiver.window.1

instance (o : Observed) : Decidable o.RealEnd :=
  inferInstanceAs (Decidable (_ ∨ ∃ _ ∈ _, _))

/-
  What a request other than `ConnReq` has to satisfy in the
  idle state for the loop to end in order: its number is not
  below the window, and if it is the expected one, so that it
  starts the slide loop, then every number at which that loop
  can stop is above the disconnection request.
-/
def KeepsOrder
    (o : Observed)
    (result : RecvResult) : Prop :=
  ∀ packet,
    result.packet? = some packet →
    o.receiver.state = .idle →
    (getAckKind packet.kind).isSome →
    packet.kind ≠ .connReq →
    o.receiver.window.1 ≤ packet.seq ∧
      (packet.seq = o.receiver.window.1 →
        (∀ p ∈ o.receiver.recvBuffer,
          o.receiver.window.1 ≤ p.seq) →
        ∀ n, o.receiver.window.1 < n → n < 2 ^ 32 →
          o.receiver.Missing n →
          ∃ request ∈ o.disconn, request.seq < n)

end Observed

end Nkurdt

------------------------------------------------------------
-- Where the Slide Loop Stops
------------------------------------------------------------

namespace Nkurdt

namespace Receiver

/-
  The slide loop that `origin` starts, around a round: either
  the window has not wrapped and everything below it has been
  taken out, or it has wrapped and the buffer is empty.
-/
def Advancing (origin current : Receiver) : Prop :=
  (origin.window.1 ≤ current.window.1 ∧
      current.window.1 < 2 ^ 32 ∧
      (∀ p ∈ current.recvBuffer,
        current.window.1 ≤ p.seq ∧ p.seq < 2 ^ 32) ∧
      ∀ p ∈ origin.recvBuffer,
        p ∈ current.recvBuffer ∨
          p.seq < current.window.1) ∨
    (current.window.1 = 0 ∧
      ∀ p, p ∉ current.recvBuffer)

theorem advancing_slideStep
    {origin current next : Receiver}
    (hAdvancing : origin.Advancing current)
    (hStep : current.slideStep = some next) :
    origin.Advancing next := by
  rcases slideStep_eq_some hStep with
    ⟨first, hFirst, hExpected, rfl⟩
  have hMember := (OrderedSet.first?_eq_some hFirst).1
  have hErased :
      ∀ p, p ∈ current.recvBuffer.eraseFirst ↔
        p ∈ current.recvBuffer ∧ p.seq ≠ first.seq :=
    fun p => OrderedSet.mem_eraseFirst_iff hFirst
  rcases hAdvancing with
    ⟨hLower, hBound, hMembers, hOrigin⟩ | ⟨_, hEmpty⟩
  · by_cases hWraps : current.window.1 + 1 = 2 ^ 32
    · right
      constructor
      · change SequenceNumber.update _ = 0
        unfold SequenceNumber.update
        rw [hWraps]
        rfl
      · intro p hBuffered
        have hOld := (hErased p).mp hBuffered
        have hRange := hMembers p hOld.1
        omega
    · left
      have hNext :
          SequenceNumber.update current.window.1 =
            current.window.1 + 1 :=
        SequenceNumber.update_of_lt (by omega)
      dsimp only
      rw [hNext]
      refine ⟨by omega, by omega, ?_, ?_⟩
      · intro p hBuffered
        have hOld := (hErased p).mp hBuffered
        have hRange := hMembers p hOld.1
        omega
      · intro p hOriginal
        rcases hOrigin p hOriginal with hStill | hBelow
        · by_cases hSame : p.seq = first.seq
          · right
            omega
          · exact Or.inl ((hErased p).mpr ⟨hStill, hSame⟩)
        · right
          omega
  · exact absurd hMember (hEmpty first)

/-
  The expected packet slides the window to the next missing
  number, unless something below the window blocks the loop
  or the window wraps around.
-/
theorem missing_insertAndSlide
    {r : Receiver}
    {packet : Packet}
    (hBound : packet.seq < 2 ^ 32)
    (hBuffer : ∀ p ∈ r.recvBuffer, p.seq < 2 ^ 32)
    (hNumber : packet.seq = r.window.1)
    (hPast :
      packet.seq < (r.insertAndSlide packet).window.1) :
    (∀ p ∈ r.recvBuffer, r.window.1 ≤ p.seq) ∧
      (r.insertAndSlide packet).window.1 < 2 ^ 32 ∧
      r.Missing (r.insertAndSlide packet).window.1 := by
  let inserted : Receiver :=
    { r with recvBuffer := r.recvBuffer.insert packet }
  have hLow : ∀ p ∈ r.recvBuffer, r.window.1 ≤ p.seq := by
    intro p hMember
    by_contra hBelow
    -- the least buffered number is below the window
    have hStuck : inserted.slideStep = none := by
      rw [slideStep_eq_none_iff]
      intro first hFirst hExpected
      have hLeast := (OrderedSet.first?_eq_some hFirst).2 p
        (OrderedSet.mem_insert_of_mem hMember)
      change first.seq = r.window.1 at hExpected
      omega
    have hSame :
        (r.insertAndSlide packet).window = r.window := by
      change (inserted.slide _).window = r.window
      rw [slide_of_stuck _ hStuck]
    rw [hSame] at hPast
    omega
  have hStart : inserted.Advancing inserted := by
    left
    refine ⟨le_rfl, ?_, ?_, ?_⟩
    · change r.window.1 < 2 ^ 32
      omega
    · intro p hMember
      change r.window.1 ≤ p.seq ∧ p.seq < 2 ^ 32
      rcases OrderedSet.mem_insert_iff.mp hMember with
        hOld | ⟨rfl, _⟩
      · exact ⟨hLow p hOld, hBuffer p hOld⟩
      · exact ⟨hNumber.ge, hBound⟩
    · exact fun p hMember => Or.inl hMember
  have hAdvancing :
      inserted.Advancing (r.insertAndSlide packet) :=
    insertAndSlide_invariant
      (fun _ _ => advancing_slideStep) hStart
  rcases hAdvancing with
    ⟨_, hUpper, hMembers, hOrigin⟩ | ⟨hZero, _⟩
  · refine ⟨hLow, hUpper, ?_⟩
    intro p hMember hSame
    have hAbove :=
      window_ne_of_slideStep_none
        (slideStep_insertAndSlide r packet)
        (fun q hBuffered => (hMembers q hBuffered).1)
    rcases hOrigin p
        (OrderedSet.mem_insert_of_mem hMember) with
      hStill | hBelow
    · have hOther := hAbove p hStill
      omega
    · omega
  · omega

/- The slide loop yields nothing. -/
theorem yield_mem_insertAndSlide
    {r : Receiver}
    {packet : Packet}
    {value : Bool}
    (hMember :
      .yield value ∈ (r.insertAndSlide packet).trace) :
    .yield value ∈ r.trace := by
  let Inv (current : Receiver) : Prop :=
    .yield value ∈ current.trace → .yield value ∈ r.trace
  have hStep :
      ∀ current next,
        Inv current →
        current.slideStep = some next →
        Inv next := by
    intro current next hCurrent hStep hNext
    rcases slideStep_eq_some hStep with ⟨first, _, _, rfl⟩
    dsimp only at hNext
    split_ifs at hNext
    · exact hCurrent (by simpa using hNext)
    · exact hCurrent hNext
  exact insertAndSlide_invariant hStep (fun hOld => hOld)
    hMember

/- An iteration ends the loop in one place only. -/
theorem yield_false_onPacket
    {r : Receiver}
    {packet : Packet}
    {addr : SocketAddr}
    (hYield :
      .yield false ∈ (r.onPacket packet addr).trace) :
    .yield false ∈ r.trace ∨
      (getAckKind packet.kind).isSome ∧
      (r.state = .idle ∨
        r.window.1 ≤ packet.seq ∧
          packet.seq < r.window.2) ∧
      (r.switchState packet addr).1.state = .idle ∧
      packet.seq <
        ((r.switchState packet addr).1.insertAndSlide
          packet).window.1 ∧
      (r.onPacket packet addr).window =
        ((r.switchState packet addr).1.insertAndSlide
          packet).window ∧
      (r.onPacket packet addr).status = .ended := by
  have hReply :
      ∀ ackKind seq,
        .yield false ∈ (r.reply ackKind seq).trace →
        .yield false ∈ r.trace := by
    intro ackKind seq hMember
    rw [reply_eq] at hMember
    rcases List.mem_append.mp hMember with hOld | hNew
    · exact hOld
    · exact absurd hNew
        (yield_not_mem_replyEvents r ackKind seq false)
  cases hAck : getAckKind packet.kind with
  | none =>
      left
      rcases onPacket_of_no_ackKind addr hAck with
        hStep | hStep
      · rw [hStep] at hYield
        exact hYield
      · rw [hStep] at hYield
        exact hYield
  | some ackKind =>
      rcases onPacket_cases addr hAck with
        ⟨_, _, hStep⟩ | ⟨_, _, _, hStep⟩ | ⟨hIn, hStep⟩
      · rw [hStep] at hYield
        exact Or.inl (hReply _ _ hYield)
      · rw [hStep] at hYield
        split_ifs at hYield
        · exact Or.inl hYield
        · exact Or.inl (hReply _ _ hYield)
      · rw [hStep, accept_eq] at hYield ⊢
        have hFrame := switchState_frame r packet addr
        rcases List.mem_append.mp hYield with hOld | hNew
        · left
          rw [← hFrame.2.2.2.2.2.1]
          exact yield_mem_insertAndSlide hOld
        · right
          unfold acceptEvents at hNew
          rw [List.mem_append, List.mem_append] at hNew
          rcases hNew with (hSent | hStop) | hEnd
          · exact absurd hSent
              (yield_not_mem_replyEvents _ _ _ _)
          · split_ifs at hStop <;> simp at hStop
          · split_ifs at hEnd with hBreak
            · dsimp only
              rw [if_pos hBreak]
              rw [state_insertAndSlide] at hBreak
              exact
                ⟨rfl, hIn, hBreak.1, hBreak.2, rfl, rfl⟩
            · simp at hEnd

end Receiver

end Nkurdt

------------------------------------------------------------
-- Real Ends
------------------------------------------------------------

namespace Nkurdt

namespace Observed

open Runs

/- What every observed iteration keeps. -/
structure Watched (o : Observed) : Prop where
  head : o.receiver.AtHead
  inRange : ∀ p ∈ o.receiver.recvBuffer, p.seq < 2 ^ 32
  disconn : ∀ packet ∈ o.disconn, packet.kind = .disconnReq
  ending :
    .yield false ∈ o.receiver.trace →
      o.receiver.status = .ended ∧ o.RealEnd

theorem watched_fresh
    (w : Nat)
    (selectiveRepeat : Bool) :
    Watched (fresh w selectiveRepeat) := by
  refine ⟨Receiver.atHead_fresh w selectiveRepeat,
    ?_, ?_, ?_⟩
  · intro p hMember
    exact absurd hMember (OrderedSet.not_mem_empty p)
  · intro packet hMember
    cases hMember
  · intro hYield
    cases hYield

/- The recorded request is always one to disconnect. -/
theorem kind_disconnAfter
    {o : Observed}
    {result : RecvResult}
    (hDisconn :
      ∀ packet ∈ o.disconn, packet.kind = .disconnReq) :
    ∀ packet ∈ o.disconnAfter result,
      packet.kind = .disconnReq := by
  intro packet hMember
  unfold disconnAfter at hMember
  cases hPacket : result.packet? with
  | none =>
      rw [hPacket] at hMember
      exact hDisconn packet hMember
  | some arrived =>
      rw [hPacket] at hMember
      dsimp only at hMember
      split_ifs at hMember with hTaken hSync
      · cases hMember
        exact hTaken.2.1
      · cases hMember
      · exact hDisconn packet hMember

/- The two ways in which the switch leaves the idle state on. -/
theorem idle_switchState
    {r : Receiver}
    {packet : Packet}
    {addr : SocketAddr}
    (hState : (r.switchState packet addr).1.state = .idle) :
    r.state = .idle ∧ packet.kind ≠ .connReq ∧
        (r.switchState packet addr).1 = r ∨
      r.state = .connected ∧ packet.kind = .disconnReq := by
  unfold Receiver.switchState at hState ⊢
  cases hBefore : r.state with
  | idle =>
      rw [hBefore] at hState
      dsimp only at hState ⊢
      split_ifs at hState ⊢ with hKind
      · left
        exact ⟨rfl, hKind, rfl⟩
  | connected =>
      rw [hBefore] at hState
      dsimp only at hState
      split_ifs at hState with hPush hDisconn
      · right
        exact ⟨rfl, hDisconn⟩
      · rw [hBefore] at hState
        cases hState
  | receiving =>
      rw [hBefore] at hState
      dsimp only at hState
      split_ifs at hState with hData hStop
      · rw [hBefore] at hState
        cases hState
      · rw [hBefore] at hState
        cases hState

/- The packet on which the loop breaks is behind a real end. -/
theorem realEnd_onPacket
    {o : Observed}
    {bytes : List UInt8}
    {addr : SocketAddr}
    {packet : Packet}
    (hWatched : o.Watched)
    (hDecode : Packet.fromBytes bytes = some (some packet))
    (hOrder : o.KeepsOrder (.datagram bytes addr))
    (hFresh : .yield false ∉ o.receiver.trace)
    (hYield :
      .yield false ∈ (o.receiver.onPacket packet addr).trace) :
    ∃ request ∈ o.disconnAfter (.datagram bytes addr),
      request.kind = .disconnReq ∧
        request.seq <
          (o.receiver.onPacket packet addr).window.1 := by
  have hPacket :
      (RecvResult.datagram bytes addr).packet? =
        some packet :=
    Option.join_eq_some_iff.mpr hDecode
  have hRange := (Packet.layout_of_fromBytes hDecode).1
  obtain ⟨hRequest, hIn, hState, hPast, hWindow, _⟩ :=
    (Receiver.yield_false_onPacket hYield).resolve_left
      hFresh
  rw [hWindow]
  rcases idle_switchState hState with
    ⟨hIdle, hKind, hSame⟩ | ⟨hConnected, hKind⟩
  · rw [hSame] at hPast ⊢
    have hAfter :
        o.disconnAfter (.datagram bytes addr) =
          o.disconn := by
      unfold disconnAfter
      rw [hPacket]
      simp [hIdle, hKind]
    rw [hAfter]
    obtain ⟨hLow, hOnExpected⟩ :=
      hOrder packet hPacket hIdle hRequest hKind
    have hNumber :
        packet.seq = o.receiver.window.1 := by
      by_contra hOther
      rw [Receiver.insertAndSlide_of_ne hWatched.head.stuck
        hOther] at hPast
      dsimp only at hPast
      omega
    obtain ⟨hAbove, hUpper, hMissing⟩ :=
      Receiver.missing_insertAndSlide hRange.seq_lt
        hWatched.inRange hNumber hPast
    obtain ⟨request, hRecorded, hDelivered⟩ :=
      hOnExpected hNumber hAbove _ (by omega) hUpper
        hMissing
    exact ⟨request, hRecorded,
      hWatched.disconn request hRecorded, hDelivered⟩
  · have hInside := hIn.resolve_left (by
      rw [hConnected]
      decide)
    refine ⟨packet, ?_, hKind, hPast⟩
    unfold disconnAfter
    rw [hPacket]
    simp [hConnected, hKind, hInside]

theorem watched_step
    {o next : Observed}
    {result : RecvResult}
    (hWatched : o.Watched)
    (hStep : o.step result = some next)
    (hOrder : o.KeepsOrder result) :
    next.Watched := by
  obtain ⟨receiver, hResult, rfl⟩ :=
    Option.map_eq_some_iff.mp hStep
  have hHead :=
    Receiver.atHead_resultStep hWatched.head hResult
  have hDisconn :
      ∀ packet ∈ o.disconnAfter result,
        packet.kind = .disconnReq :=
    kind_disconnAfter hWatched.disconn
  obtain ⟨hLooping, _, hCases⟩ :=
    Receiver.resultStep_cases hResult
  -- the loop still runs, so it has not yielded `false`
  have hFresh : .yield false ∉ o.receiver.trace := by
    intro hYield
    have hEnded := (hWatched.ending hYield).1
    rw [hLooping] at hEnded
    cases hEnded
  rcases hCases with
    rfl | ⟨value, rfl, hFatal, rfl⟩ | ⟨_, _, _, _, rfl⟩ |
      ⟨bytes, addr, packet, rfl, hDecode, rfl⟩
  · refine ⟨hHead, hWatched.inRange, hDisconn, ?_⟩
    intro hYield
    exact absurd hYield hFresh
  · refine ⟨hHead, hWatched.inRange, hDisconn, ?_⟩
    intro _
    refine ⟨rfl, Or.inl ?_⟩
    simp [RecvResult.isFatal, hFatal]
  · refine ⟨hHead, hWatched.inRange, hDisconn, ?_⟩
    intro hYield
    exact absurd hYield hFresh
  · refine ⟨hHead, ?_, hDisconn, ?_⟩
    · intro p hMember
      cases hAck : getAckKind packet.kind with
      | none =>
          rcases Receiver.onPacket_of_no_ackKind addr hAck
            with hSame | hThrew
          · rw [hSame] at hMember
            exact hWatched.inRange p hMember
          · rw [hThrew] at hMember
            exact hWatched.inRange p hMember
      | some ackKind =>
          rcases Receiver.mem_of_mem_onPacket
              (by rw [hAck]; rfl) hMember with
            hOld | rfl
          · exact hWatched.inRange p hOld
          · exact
              (Packet.layout_of_fromBytes hDecode).1.seq_lt
    · intro hYield
      have hEnd :=
        realEnd_onPacket hWatched hDecode hOrder hFresh
          hYield
      have hBreak :=
        (Receiver.yield_false_onPacket hYield).resolve_left
          hFresh
      exact ⟨hBreak.2.2.2.2.2, Or.inr hEnd⟩

/-
  Whenever the coroutine yields `false`, the socket has failed
  or a request to disconnect, taken in the connected state,
  has been delivered in order.
-/
theorem realEnd_of_reaches
    {w : Nat}
    {selectiveRepeat : Bool}
    {o : Observed}
    (hReach :
      Reaches step (fun o result _ => o.KeepsOrder result)
        (fresh w selectiveRepeat) o)
    (hYield : .yield false ∈ o.receiver.trace) :
    o.RealEnd := by
  have hWatched : o.Watched :=
    hReach.invariant (watched_fresh w selectiveRepeat)
      (fun _ _ _ hCurrent hStep hOrder =>
        watched_step hCurrent hStep hOrder)
  exact (hWatched.ending hYield).2

/- A connection that is set up and closed in order. -/
theorem realEnd_of_reaches_disconn :
    ∃ o,
      Reaches step (fun o result _ => o.KeepsOrder result)
        (fresh 4 true) o ∧
      .yield false ∈ o.receiver.trace ∧ o.RealEnd := by
  let opened : Observed :=
    ⟨(Receiver.fresh 4 true).recvStep
        (Receiver.requestBytes .connReq 0), none, false⟩
  let closed : Observed :=
    ⟨opened.receiver.recvStep
        (Receiver.requestBytes .disconnReq 1),
      opened.disconnAfter
        (Receiver.requestBytes .disconnReq 1), false⟩
  have hConnReq :
      (Receiver.requestBytes .connReq 0).packet? =
        some (Receiver.request .connReq 0).1 := by
    decide +kernel
  have hConnected : opened.receiver.state = .connected := by
    decide +kernel
  have hOpened :
      (fresh 4 true).step
          (Receiver.requestBytes .connReq 0) =
        some opened := by
    have hNone :
        (fresh 4 true).disconnAfter
          (Receiver.requestBytes .connReq 0) = none := by
      decide +kernel
    unfold step
    rw [hNone]
    rfl
  have hClosed :
      opened.step (Receiver.requestBytes .disconnReq 1) =
        some closed := by
    have hRuns :
        opened.receiver.status = .looping ∧
          opened.receiver.running = true := by
      decide +kernel
    unfold step Receiver.resultStep
    rw [if_pos hRuns]
    rfl
  have hReach :
      Reaches step (fun o result _ => o.KeepsOrder result)
        (fresh 4 true) closed := by
    refine Reaches.tail (Reaches.tail .refl hOpened ?_)
      hClosed ?_
    · intro packet hPacket _ _ hKind
      rw [hConnReq] at hPacket
      cases hPacket
      exact absurd rfl hKind
    · intro packet _ hIdle
      rw [hConnected] at hIdle
      cases hIdle
  have hYield : .yield false ∈ closed.receiver.trace := by
    decide +kernel
  exact ⟨closed, hReach, hYield,
    realEnd_of_reaches hReach hYield⟩

/- Data in the idle state, before any connection, ends it. -/
theorem exists_not_realEnd :
    ∃ o,
      Reaches step (fun _ _ _ => True) (fresh 4 true) o ∧
      (.yield false ∈ o.receiver.trace ∧ ¬ o.RealEnd) :=
  exists_reaches_of_runActions
    [Receiver.requestBytes .data 0]
    (by decide +kernel)

end Observed

end Nkurdt

------------------------------------------------------------
-- Kinds Without an Answer
------------------------------------------------------------

namespace Nkurdt

namespace PacketKind

/-
  The kinds that the loop skips or has an acknowledgement
  for are the enumerators other than `None`.
-/
theorem answered_iff
    {kind : PacketKind} :
    kind.isAck = true ∨ (getAckKind kind).isSome ↔
      1 ≤ kind.toByte.toNat ∧ kind.toByte.toNat ≤ 10 := by
  cases kind with
  | unnamed byte hByte =>
      refine ⟨fun hAnswered => ?_, fun hRange => ?_⟩
      · rcases hAnswered with hAck | hSome
        · cases hAck
        · cases hSome
      · exact absurd hRange.2 (not_le.mpr hByte)
  | _ => decide

end PacketKind

/- The kind of a datagram is its byte 6. -/
theorem Packet.kind_of_fromBytes
    {bytes : List UInt8}
    {packet : Packet}
    (hDecode :
      Packet.fromBytes bytes = some (some packet)) :
    bytes[6]? = some packet.kind.toByte := by
  obtain ⟨_, _, low, high, slack, _, hBytes⟩ :=
    Packet.layout_of_fromBytes hDecode
  rw [hBytes]
  rfl

namespace Receiver

/- An accepted packet does not leave by an exception. -/
theorem status_accept
    (r : Receiver)
    (packet : Packet)
    (ackKind : PacketKind)
    (addr : SocketAddr) :
    (r.accept packet ackKind addr).status = r.status ∨
      (r.accept packet ackKind addr).status = .ended := by
  rw [accept_eq]
  dsimp only
  split_ifs
  · exact Or.inr rfl
  · rw [status_insertAndSlide]
    exact Or.inl (switchState_frame r packet addr).2.2.2.2.2.2

/-
  In any state of the loop, an iteration on a datagram that
  decodes ends by going on or by breaking exactly when the
  kind of the packet is one that the loop can answer.
-/
theorem finishes_iff
    {r : Receiver}
    {bytes : List UInt8}
    {packet : Packet}
    (addr : SocketAddr)
    (hLooping : r.status = .looping)
    (hRunning : r.running = true)
    (hDecode :
      Packet.fromBytes bytes = some (some packet)) :
    (r.recvStep (.datagram bytes addr)).status = .looping ∨
        (r.recvStep (.datagram bytes addr)).status =
          .ended ↔
      ∃ kind ∈ bytes[6]?,
        1 ≤ kind.toNat ∧ kind.toNat ≤ 10 := by
  have hStep :
      r.recvStep (.datagram bytes addr) =
        r.onPacket packet addr := by
    unfold recvStep
    rw [if_pos ⟨hLooping, hRunning⟩]
    dsimp only
    rw [hDecode]
  have hCondition :
      (∃ kind ∈ bytes[6]?,
          1 ≤ kind.toNat ∧ kind.toNat ≤ 10) ↔
        packet.kind.isAck = true ∨
          (getAckKind packet.kind).isSome := by
    rw [Packet.kind_of_fromBytes hDecode,
      PacketKind.answered_iff]
    simp
  rw [hStep, hCondition]
  by_cases hIsAck : packet.kind.isAck = true
  · have hSkip : r.onPacket packet addr = r := by
      unfold onPacket
      exact if_pos hIsAck
    rw [hSkip]
    exact iff_of_true (Or.inl hLooping) (Or.inl hIsAck)
  cases hAck : getAckKind packet.kind with
  | none =>
      have hThrew :
          (r.onPacket packet addr).status = .threw := by
        unfold onPacket Packet.isAck
        rw [if_neg hIsAck, hAck]
      rw [hThrew]
      refine iff_of_false ?_ ?_
      · rintro (hNow | hNow) <;> cases hNow
      · rintro (hNow | hNow)
        · exact hIsAck hNow
        · cases hNow
  | some ackKind =>
      refine iff_of_true ?_ (Or.inr rfl)
      rcases onPacket_cases addr hAck with
        ⟨_, _, hNext⟩ | ⟨_, _, _, hNext⟩ | ⟨_, hNext⟩
      · rw [hNext, reply_eq]
        exact Or.inl hLooping
      · rw [hNext]
        split_ifs
        · exact Or.inl hLooping
        · rw [reply_eq]
          exact Or.inl hLooping
      · rw [hNext]
        refine (status_accept r packet ackKind addr).imp_left
          ?_
        exact fun hSame => hSame.trans hLooping

/- A connection request is answered. -/
theorem finishes_connReq :
    ((fresh 4 true).recvStep
        (requestBytes .connReq 0)).status = .looping ∨
      ((fresh 4 true).recvStep
        (requestBytes .connReq 0)).status = .ended := by
  have hDecode :
      Packet.fromBytes (request .connReq 0).1.toBytes =
        some (some (request .connReq 0).1) :=
    Packet.fromBytes_toBytes
      ⟨by decide, by decide, by decide⟩
  exact (finishes_iff (request .connReq 0).2 rfl rfl
    hDecode).mpr (by decide +kernel)

/- A frame of kind `None` leaves the loop by an exception. -/
theorem exists_threw :
    ∃ bytes packet,
      Packet.fromBytes bytes = some (some packet) ∧
        ((fresh 4 true).recvStep
          (.datagram bytes ⟨0, 2⟩)).status = .threw := by
  refine ⟨(⟨version, .none, 0, []⟩ : Packet).toBytes,
    ⟨version, .none, 0, []⟩,
    Packet.fromBytes_toBytes ?_, by decide +kernel⟩
  exact ⟨by decide, by decide, by decide⟩

end Receiver

end Nkurdt
