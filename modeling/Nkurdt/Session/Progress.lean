import Nkurdt.Receiver.Rejection
import Nkurdt.Sender.Retransmission
import Nkurdt.Session.Delivery

/-
  Round trips move the window.

  The receiver answers every arrival of the lowest packet of
  the window, and its answer covers the number of the packet.
  When the answer comes back, eleven turns of `recv_handler`
  carry the lower bound past the number, whatever the other
  threads and the network do in the meantime.

  Main declarations:
    * `Receiver.replies_onPacket`
    * `Sender.heeds_step`
    * `Session.answered_of_lowest`
    * `Session.RoundTrip`
    * `Session.RoundTrips`
    * `Session.advances_of_roundTrips`
-/

------------------------------------------------------------
-- Answers
------------------------------------------------------------

namespace Nkurdt

namespace Receiver

theorem replies_replyEvents
    {r : Receiver}
    (hPeer : r.peerAddr.isSome)
    (ackKind : PacketKind)
    (seq : Nat) :
    Event.replies (r.replyEvents ackKind seq) =
      [⟨version, ackKind, seq, []⟩] := by
  rcases Option.isSome_iff_exists.mp hPeer with ⟨addr, hSome⟩
  unfold replyEvents
  rw [hSome]
  rfl

/-
  A packet below the upper bound is answered once, if the
  peer is known behind the iteration.
-/
theorem replies_onPacket
    {r : Receiver}
    {packet : Packet}
    {ackKind : PacketKind}
    (addr : SocketAddr)
    (hAck : getAckKind packet.kind = some ackKind)
    (hUpper : r.state = .idle ∨ packet.seq < r.window.2)
    (hPeer : (r.onPacket packet addr).peerAddr.isSome) :
    Event.replies (r.onPacket packet addr).trace =
      Event.replies r.trace ++
        [⟨version, ackKind,
          (r.onPacket packet addr).ackNumber packet, []⟩] := by
  rcases onPacket_cases addr hAck with
    ⟨_, _, hStep⟩ | ⟨_, hHigh, hOpen, _⟩ | ⟨_, hStep⟩
  · rw [hStep, reply_eq] at hPeer ⊢
    dsimp only at hPeer ⊢
    rw [Event.replies_append, replies_replyEvents hPeer]
    rfl
  · rcases hUpper with hIdle | hLess
    · exact absurd hIdle hOpen
    · exact absurd hLess (not_lt.mpr hHigh)
  · rw [hStep, accept_eq] at hPeer ⊢
    dsimp only at hPeer ⊢
    rw [Event.replies_append, replies_insertAndSlide,
      (switchState_frame r packet addr).2.2.2.2.2.1,
      replies_acceptEvents, replies_replyEvents hPeer]
    rfl

/-
  What is held and not above the old lower bound is below
  the new one.
-/
theorem Settled.lt_of_held
    {r : Receiver}
    {n lower : Nat}
    (hSettled : r.Settled)
    (hHeld : r.Held n)
    (hOld : n ≤ lower)
    (hMoved : lower ≤ r.window.1) :
    n < r.window.1 := by
  rcases hHeld with hBelow | ⟨p, hMember, rfl⟩
  · exact hBelow
  · have hAbove := (hSettled.lt_lower hMember).1
    omega

end Receiver

end Nkurdt

------------------------------------------------------------
-- Answers to the Lowest Packet
------------------------------------------------------------

namespace Nkurdt

namespace Session

open Sender
open Runs

/- The receiver's loop runs, and it knows whom to answer. -/
structure Attentive (x : Session) : Prop where
  sustained : Sustained x
  head : x.receiver.AtHead
  looping : x.receiver.status = .looping

/- The receiver runs as long as its loop does. -/
theorem Attentive.running
    {x : Session}
    (hAttentive : Attentive x) :
    x.receiver.running = true := by
  rcases hAttentive.sustained.joined.served with
    ⟨_, hFresh⟩ | hServing
  · rw [hFresh]
    rfl
  · exact (hServing.open_of_looping hAttentive.looping).1

theorem attentive_fresh
    (config : SenderConfig)
    {w : Nat}
    (hSize : 1 ≤ w) :
    Attentive (fresh config w) :=
  ⟨⟨joined_fresh config hSize, neverDisconnects_fresh config⟩,
    Receiver.atHead_fresh w config.selectiveRepeat, rfl⟩

/- A packet that was built leaves no receiver idle. -/
theorem Attentive.open_onPacket
    {x : Session}
    {packet : Packet}
    (hAttentive : Attentive x)
    (addr : SocketAddr)
    (hBuilt : x.sender.Built packet.seq packet) :
    (x.receiver.onPacket packet addr).state ≠ .idle := by
  have hJoined := hAttentive.sustained.joined
  have hRequest := (hJoined.originals.inRange hBuilt).2
  rcases hJoined.served with ⟨hOpening, hFresh⟩ | hServing
  · have hKind := (eq_of_opening hOpening hBuilt).2.1
    rw [hFresh, Receiver.onPacket_connReq addr hKind rfl,
      Receiver.accept_eq]
    dsimp only
    rw [Receiver.state_insertAndSlide]
    unfold Receiver.switchState
    simp [Receiver.fresh, Receiver.start, hKind]
  · exact state_onPacket_ne_idle addr hRequest
      (hAttentive.sustained.never.kinds packet
        (List.mem_of_getElem? hBuilt))
      (hServing.open_of_looping hAttentive.looping).2

theorem attentive_step
    {x x' : Session}
    {action : Action}
    (hAttentive : Attentive x)
    (hStep : x.step action = some x')
    (hConnected : Connected x action x') :
    Attentive x' := by
  have hSustained := hAttentive.sustained
  have hNext := sustained_step hSustained hStep hConnected
  cases action with
  | sender action =>
      rcases Option.map_eq_some_iff.mp hStep with ⟨s', _, rfl⟩
      exact ⟨hNext, hAttentive.head, hAttentive.looping⟩
  | receive result =>
      cases hStep
      rcases recvStep_of_carries hSustained.joined.originals
          hConnected.delivers with
        hSame | ⟨packet, addr, hBuilt, hLooping, hMove⟩
      · refine ⟨hNext, ?_, ?_⟩
        · dsimp only
          rw [hSame]
          exact hAttentive.head
        · dsimp only
          rw [hSame]
          exact hAttentive.looping
      · have hRequest :=
          (hSustained.joined.originals.inRange hBuilt).2
        have hOpen := hAttentive.open_onPacket addr hBuilt
        refine ⟨hNext, ?_, ?_⟩
        · dsimp only
          rw [hMove]
          exact Receiver.atHead_onPacket hAttentive.head
            hLooping
        · dsimp only
          rw [hMove, Receiver.status_onPacket addr hRequest
            hOpen]
          exact hLooping

/-
  The receiver holds the lowest packet behind its arrival,
  and the packet lies below its upper bound before.
-/
theorem Attentive.held_of_lowest
    {x : Session}
    {packet : Packet}
    (hAttentive : Attentive x)
    (addr : SocketAddr)
    (hBuilt : x.sender.Built packet.seq packet)
    (hLowest : packet.seq = x.sender.window.lowerBound)
    (hRoom :
      x.sender.window.upperBound +
        x.receiver.maxWindowSize < 2 ^ 32) :
    (x.receiver.onPacket packet addr).Held packet.seq ∧
      (x.receiver.state = .idle ∨
        packet.seq < x.receiver.window.2) := by
  have hJoined := hAttentive.sustained.joined
  have hSeq := hJoined.originals.lt_upperBound hBuilt
  have hRequest := (hJoined.originals.inRange hBuilt).2
  have hBehind := hJoined.behind
  rcases hJoined.served with ⟨hOpening, hFresh⟩ | hServing
  · obtain ⟨_, hKind, hFirst⟩ := eq_of_opening hOpening hBuilt
    refine ⟨?_, ?_⟩
    · have hDelivers :=
        Receiver.delivers_onPacket_connReq
          (P := fun _ => packet.payload) addr
          (r :=
            Receiver.fresh x.receiver.maxWindowSize
              x.sender.selectiveRepeat)
          hJoined.size hKind ?_ rfl
          (fun p => OrderedSet.not_mem_empty p) rfl rfl rfl
      · rw [hFresh]
        exact (hDelivers.2 _).mpr le_rfl
      · change packet.seq + x.receiver.maxWindowSize < 2 ^ 32
        omega
    · rw [hFresh]
      exact Or.inl rfl
  · have hOpen :=
      (hServing.open_of_looping hAttentive.looping).2
    have hRoomy : x.receiver.Roomy packet := by
      unfold Receiver.Roomy
      omega
    have hLower := hServing.lower_le
    have hSize := hJoined.size
    have hInside :
        packet.seq < x.receiver.window.2 := by
      have hSized := hServing.settled.sized
      unfold Receiver.WindowSized at hSized
      rw [SequenceNumber.add_of_lt (by omega)] at hSized
      omega
    refine ⟨?_, Or.inr hInside⟩
    rw [(Receiver.held_onPacket addr hRequest hRoomy hOpen
      hServing.settled).1]
    rcases Nat.lt_or_ge packet.seq x.receiver.window.1 with
      hBelow | hAbove
    · exact Or.inl (Or.inl hBelow)
    · exact Or.inr ⟨rfl, hAbove, hInside⟩

end Session

end Nkurdt

------------------------------------------------------------
-- The Answer Comes Back
------------------------------------------------------------

namespace Nkurdt

/-
  The turns of `recv_handler` before the one that can move
  the lower bound.
-/
def RecvPc.toMove : RecvPc → Nat
| .decode _ => 10
| .dispatch _ => 9
| .lockState _ _ => 8
| .setState _ _ => 7
| .unlockState _ => 6
| .notify _ => 5
| .lockAcked _ => 4
| .insertAck _ => 3
| .compare _ => 2
| .less _ => 1
| _ => 0

namespace Sender

/-
  `recv_handler` is on its way from the datagram of the
  acknowledgement to the move of the lower bound.
-/
def Heeds (ack : Packet) (s : Sender) : Prop :=
  match s.recvPc with
  | .decode bytes => bytes = ack.toBytes
  | .dispatch packet => packet = ack
  | .lockState _ packet => packet = ack
  | .setState _ packet => packet = ack
  | .unlockState packet => packet = ack
  | .notify packet => packet = ack
  | .lockAcked packet => packet = ack
  | .insertAck packet => packet = ack
  | .compare packet => packet = ack
  | .less packet => packet = ack
  | .setLower packet => packet = ack
  | .slide => ack.seq ∈ s.ackedSeqSet
  | _ => False

/-
  A turn of `recv_handler` moves the lower bound past the
  number, or comes nearer to that.
-/
theorem heeds_recvHandlerStep
    {s s' : Sender}
    {n : Nat}
    {ack : Packet}
    (hReady : WindowReady s)
    (hDecode : Packet.fromBytes ack.toBytes = some (some ack))
    (hCovers : s.Covers n ack)
    (hLowest : s.window.lowerBound = n)
    (hRoom : n + 1 < 2 ^ 32)
    (hHeeds : s.Heeds ack)
    (hStep : s.recvHandlerStep = some s') :
    n < s'.window.lowerBound ∨
      s'.Heeds ack ∧
        s'.recvPc.toMove + 1 ≤ s.recvPc.toMove := by
  have hGoBackN :
      s.recvPc.InGoBackN → n < ack.seq := by
    intro hBranch
    unfold Covers at hCovers
    rw [hReady.goBackN hBranch, if_neg Bool.false_ne_true]
      at hCovers
    exact hCovers
  unfold Heeds at hHeeds
  cases recvHandlerStep_branch hStep with
  | @overreads bytes hPc hFails | @drops bytes hPc hFails =>
      rw [hPc] at hHeeds
      dsimp only at hHeeds
      rw [hHeeds, hDecode] at hFails
      cases hFails
  | @decodes bytes packet hPc hGives =>
      rw [hPc] at hHeeds ⊢
      dsimp only at hHeeds
      rw [hHeeds, hDecode] at hGives
      cases hGives
      exact Or.inr ⟨rfl, le_rfl⟩
  | takes hPc | locksState hPc | setsState hPc
  | unlocksState hPc | notifies hPc | locksAcked hPc
  | insertsToCompare hPc | differs hPc | exceeds hPc =>
      rw [hPc] at hHeeds ⊢
      exact Or.inr ⟨hHeeds, le_rfl⟩
  | passes hPc =>
      rw [hPc] at hHeeds ⊢
      exact Or.inr ⟨hHeeds, (by omega : 4 + 1 ≤ 9)⟩
  | insertsToSlide hPc =>
      rw [hPc] at hHeeds ⊢
      dsimp only at hHeeds
      subst hHeeds
      refine Or.inr ⟨?_, (by omega : 0 + 1 ≤ 3)⟩
      exact Finset.mem_insert_self _ _
  | repeats hPc hEqual | repeatsFast hPc hEqual =>
      rw [hPc] at hHeeds hGoBackN
      dsimp only at hHeeds
      subst hHeeds
      have hLess := hGoBackN trivial
      omega
  | fallsBehind hPc hNotLess =>
      rw [hPc] at hHeeds hGoBackN
      dsimp only at hHeeds
      subst hHeeds
      have hLess := hGoBackN trivial
      omega
  | setsLower hPc =>
      rw [hPc] at hHeeds hGoBackN
      dsimp only at hHeeds
      subst hHeeds
      exact Or.inl (hGoBackN trivial)
  | slides hPc =>
      left
      change n < SequenceNumber.update s.window.lowerBound
      rw [hLowest, SequenceNumber.update_of_lt hRoom]
      exact Nat.lt_succ_self n
  | settles hPc hMissing =>
      rw [hPc] at hHeeds
      dsimp only at hHeeds
      unfold Covers at hCovers
      rw [hReady.slide hPc, if_pos rfl] at hCovers
      rw [hLowest, ← hCovers] at hMissing
      exact absurd hHeeds hMissing
  | _ hPc =>
      rw [hPc] at hHeeds
      exact False.elim hHeeds

/- Nobody else takes the acknowledgement from it. -/
theorem heeds_of_other
    {s s' : Sender}
    {action : Action}
    {ack : Packet}
    (hHeeds : s.Heeds ack)
    (hStep : s.step action = some s')
    (hOther : action ≠ .thread .recvHandler) :
    s'.Heeds ack ∧ s'.recvPc = s.recvPc := by
  have hSocket : ∀ result, action ≠ .recv result := by
    rintro result rfl
    have hPc := (recvStep_keeps hStep).recvPc
    unfold Heeds at hHeeds
    rw [hPc] at hHeeds
    exact hHeeds
  have hPc := recvPc_of_other hStep hOther hSocket
  refine ⟨?_, hPc⟩
  unfold Heeds at hHeeds ⊢
  rw [hPc, (step_keeps hStep hOther).ackedSeqSet]
  exact hHeeds

theorem heeds_step
    {s s' : Sender}
    {action : Action}
    {n : Nat}
    {ack : Packet}
    (hReady : WindowReady s)
    (hDecode : Packet.fromBytes ack.toBytes = some (some ack))
    (hCovers : s.Covers n ack)
    (hLowest : s.window.lowerBound = n)
    (hRoom : n + 1 < 2 ^ 32)
    (hHeeds : s.Heeds ack)
    (hStep : s.step action = some s') :
    n < s'.window.lowerBound ∨
      s'.Heeds ack ∧
        s'.recvPc.toMove + (action.isOf .recvHandler).toNat ≤
          s.recvPc.toMove := by
  by_cases hRecv : action = .thread .recvHandler
  · subst hRecv
    exact heeds_recvHandlerStep hReady hDecode hCovers hLowest
      hRoom hHeeds hStep
  · have hOther := heeds_of_other hHeeds hStep hRecv
    rw [Action.isOf_of_ne hRecv, hOther.2]
    exact Or.inr ⟨hOther.1, le_rfl⟩

end Sender

end Nkurdt

------------------------------------------------------------
-- Round Trips
------------------------------------------------------------

namespace Nkurdt

namespace Session

open Sender
open Runs

/- The turns of one of the sender's threads. -/
def Action.isOf (thread : Thread) : Action → Bool
| .sender action => action.isOf thread
| .receive _ => false

theorem attentive_of_reaches
    {x y : Session}
    (hAttentive : Attentive x)
    (hReach : Reaches step Connected x y) :
    Attentive y :=
  hReach.invariant hAttentive
    (fun _ _ _ hCurrent hNext hAllowed =>
      attentive_step hCurrent hNext hAllowed)

/- The lower bound of the sender does not fall back. -/
theorem lower_le_of_step
    {x x' : Session}
    {action : Action}
    (hAttentive : Attentive x)
    (hStep : x.step action = some x') :
    x.sender.window.lowerBound ≤
      x'.sender.window.lowerBound := by
  cases action with
  | sender action =>
      rcases Option.map_eq_some_iff.mp hStep with
        ⟨s', hSender, rfl⟩
      exact (lower_step hAttentive.sustained.joined hSender).1
  | receive result =>
      cases hStep
      exact le_rfl

/- The lower bound has come to the number. -/
def Above (n : Nat) (x : Session) : Prop :=
  Attentive x ∧ n ≤ x.sender.window.lowerBound

theorem above_step
    {x x' : Session}
    {action : Action}
    {n : Nat}
    (hAbove : Above n x)
    (hStep : x.step action = some x')
    (hConnected : Connected x action x') :
    Above n x' :=
  ⟨attentive_step hAbove.1 hStep hConnected,
    hAbove.2.trans (lower_le_of_step hAbove.1 hStep)⟩

theorem above_of_reaches
    {x y : Session}
    {n : Nat}
    (hAbove : Above n x)
    (hReach : Reaches step Connected x y) :
    Above n y :=
  hReach.invariant hAbove
    (fun _ _ _ hCurrent hNext hAllowed =>
      above_step hCurrent hNext hAllowed)

/-
  The receiver answers every arrival of the lowest packet,
  and its answer covers the number of the packet.
-/
theorem answered_of_lowest
    {x x' : Session}
    {packet : Packet}
    {addr : SocketAddr}
    (hAttentive : Attentive x)
    (hSent : packet ∈ x.requests)
    (hLowest : packet.seq = x.sender.window.lowerBound)
    (hStep :
      x.step (.receive (.datagram packet.toBytes addr)) =
        some x')
    (hConnected :
      Connected x (.receive (.datagram packet.toBytes addr))
        x') :
    ∃ ack,
      x'.replies = x.replies ++ [ack] ∧
        x'.sender.Covers packet.seq ack := by
  have hJoined := hAttentive.sustained.joined
  have hNext := attentive_step hAttentive hStep hConnected
  rcases List.mem_map.mp hSent with ⟨d, hWire, rfl⟩
  have hBuilt := hJoined.originals.wire d hWire
  have hRange := hJoined.originals.inRange hBuilt
  have hMove :
      x.receiver.recvStep (.datagram d.2.toBytes addr) =
        x.receiver.onPacket d.2 addr := by
    unfold Receiver.recvStep
    rw [if_pos ⟨hAttentive.looping, hAttentive.running⟩]
    dsimp only
    rw [Packet.fromBytes_toBytes hRange.1]
  cases hStep
  unfold replies
  dsimp only
  rw [hMove] at hNext hConnected ⊢
  have hOpen := hAttentive.open_onPacket addr hBuilt
  have hPeer := hNext.head.peer hOpen
  rcases Option.isSome_iff_exists.mp hRange.2 with
    ⟨ackKind, hAck⟩
  have hHeld :=
    hAttentive.held_of_lowest addr hBuilt hLowest
      hConnected.room
  refine ⟨_,
    Receiver.replies_onPacket addr hAck hHeld.2 hPeer, ?_⟩
  have hServed :=
    served_onPacket addr hJoined hBuilt hAttentive.looping
      hConnected.room (fun _ => Or.inl hOpen)
  have hBehind :
      d.2.seq ≤ x.receiver.window.1 :=
    hLowest.trans_le hJoined.behind
  have hMode := hNext.sustained.joined.mode
  unfold Covers Receiver.ackNumber
  rw [← hMode]
  split_ifs
  · rfl
  · exact hServed.1.settled.lt_of_held hHeld.1 hBehind
      hServed.2

/-
  The lowest packet arrives, the receiver's answer to it
  comes back, and `recv_handler` has eleven turns from there.
  In between anything can happen.
-/
inductive RoundTrip (x x' : Session) : Prop
| made
    {y y' z z' : Session}
    {packet ack : Packet}
    {addr addr' : SocketAddr}
    {actions : List Action}
    (hBefore : Reaches step Connected x y)
    (hSent : packet ∈ y.requests)
    (hLowest : packet.seq = y.sender.window.lowerBound)
    (hArrives :
      y.step (.receive (.datagram packet.toBytes addr)) =
        some y')
    (hArrival :
      Connected y (.receive (.datagram packet.toBytes addr))
        y')
    (hAnswer : y'.replies = y.replies ++ [ack])
    (hBetween : Reaches step Connected y' z)
    (hReturns :
      z.step (.sender (.recv (.datagram ack.toBytes addr'))) =
        some z')
    (hReturn :
      Connected z
        (.sender (.recv (.datagram ack.toBytes addr'))) z')
    (hRun : runActions step Connected z' actions = some x')
    (hTurns : 11 ≤ actions.countP (Action.isOf .recvHandler))

/- Some round trips, one after another. -/
inductive RoundTrips : Nat → Session → Session → Prop
| none
    (x : Session) :
    RoundTrips 0 x x
| more
    {k : Nat}
    {x y z : Session}
    (hTrips : RoundTrips k x y)
    (hTrip : RoundTrip y z) :
    RoundTrips (k + 1) x z

/- An answer that covers the number has been sent. -/
structure Answered
    (n : Nat)
    (ack : Packet)
    (x : Session) : Prop where
  above : Above n x
  reply : ack ∈ x.replies
  covers : x.sender.Covers n ack

theorem answered_step
    {x x' : Session}
    {action : Action}
    {n : Nat}
    {ack : Packet}
    (hAnswered : Answered n ack x)
    (hStep : x.step action = some x')
    (hConnected : Connected x action x') :
    Answered n ack x' := by
  have hNext := above_step hAnswered.above hStep hConnected
  cases action with
  | sender action =>
      rcases Option.map_eq_some_iff.mp hStep with
        ⟨s', hSender, rfl⟩
      refine ⟨hNext, hAnswered.reply, ?_⟩
      unfold Covers
      rw [(sameConfig_step hSender).selectiveRepeat]
      exact hAnswered.covers
  | receive result =>
      have hOriginals :=
        hAnswered.above.1.sustained.joined.originals
      cases hStep
      refine ⟨hNext, ?_, hAnswered.covers⟩
      unfold replies
      dsimp only
      rcases recvStep_of_carries hOriginals
          hConnected.delivers with
        hSame | ⟨packet, addr, hBuilt, _, hMove⟩
      · rw [hSame]
        exact hAnswered.reply
      · rw [hMove]
        exact Receiver.replies_subset_onPacket addr
          (hOriginals.inRange hBuilt).2 hAnswered.reply

/- The answer to a number is being worked on. -/
structure Heeding
    (n : Nat)
    (ack : Packet)
    (x : Session) : Prop where
  attentive : Attentive x
  lowest : x.sender.window.lowerBound = n
  decodes : Packet.fromBytes ack.toBytes = some (some ack)
  covers : x.sender.Covers n ack
  heeds : x.sender.Heeds ack

theorem heeding_step
    {x x' : Session}
    {action : Action}
    {n : Nat}
    {ack : Packet}
    (hHeeding : Heeding n ack x)
    (hStep : x.step action = some x')
    (hConnected : Connected x action x') :
    Above (n + 1) x' ∨
      Heeding n ack x' ∧
        x'.sender.recvPc.toMove +
            (action.isOf .recvHandler).toNat ≤
          x.sender.recvPc.toMove := by
  have hNext :=
    attentive_step hHeeding.attentive hStep hConnected
  have hMonotone :=
    lower_le_of_step hHeeding.attentive hStep
  have hLowest := hHeeding.lowest
  by_cases hMoved : n < x'.sender.window.lowerBound
  · exact Or.inl ⟨hNext, hMoved⟩
  right
  cases action with
  | receive result =>
      cases hStep
      exact ⟨⟨hNext, hLowest, hHeeding.decodes,
        hHeeding.covers, hHeeding.heeds⟩, le_rfl⟩
  | sender action =>
      have hJoined := hHeeding.attentive.sustained.joined
      have hRoom := hJoined.room
      have hBounds := hJoined.behind.trans hJoined.first_le
      rcases Option.map_eq_some_iff.mp hStep with
        ⟨s', hSender, rfl⟩
      have hMode := (sameConfig_step hSender).selectiveRepeat
      rcases heeds_step hJoined.ready hHeeding.decodes
          hHeeding.covers hLowest (by omega) hHeeding.heeds
          hSender with hPast | ⟨hHeeds, hLess⟩
      · exact absurd hPast hMoved
      · refine ⟨⟨hNext, ?_, hHeeding.decodes, ?_, hHeeds⟩,
          hLess⟩
        · dsimp only at hMoved hMonotone ⊢
          omega
        · unfold Covers
          rw [hMode]
          exact hHeeding.covers

/- The answer comes to `recv_handler`. -/
theorem above_of_answered
    {z z' x' : Session}
    {n : Nat}
    {ack : Packet}
    {addr : SocketAddr}
    {actions : List Action}
    (hAnswered : Answered n ack z)
    (hReturns :
      z.step (.sender (.recv (.datagram ack.toBytes addr))) =
        some z')
    (hReturn :
      Connected z
        (.sender (.recv (.datagram ack.toBytes addr))) z')
    (hRun : runActions step Connected z' actions = some x')
    (hTurns :
      11 ≤ actions.countP (Action.isOf .recvHandler)) :
    Above (n + 1) x' := by
  have hAbove := hAnswered.above
  have hNext := above_step hAbove hReturns hReturn
  have hDecode :=
    (hAbove.1.sustained.joined.reply_sound
      hAnswered.reply).2
  let Never (_ : Session) (_ : Action) (_ : Session) : Prop :=
    False
  have hStays :
      ∀ current action next,
        Above (n + 1) current →
        step current action = some next →
        Connected current action next →
        Never current action next ∨ Above (n + 1) next := by
    intro current action next hCurrent hStep hConnected
    exact Or.inr (above_step hCurrent hStep hConnected)
  have hOccurs :
      Occurs step Connected Never z' actions ∨
        Above (n + 1) x' := by
    rcases Nat.lt_or_ge n z'.sender.window.lowerBound with
      hPast | hNotPast
    · exact occurs_or_keeps ⟨hNext.1, hPast⟩ hRun hStays
    rcases Option.map_eq_some_iff.mp hReturns with
      ⟨s', hRecv, rfl⟩
    change
      z.sender.recvStep (.datagram ack.toBytes addr) =
        some s' at hRecv
    have hKeeps := recvStep_keeps hRecv
    have hPc : s'.recvPc = .decode ack.toBytes := by
      unfold recvStep at hRecv
      rw [if_pos hKeeps.recvPc] at hRecv
      cases hRecv
      rfl
    have hHeeding : Heeding n ack { z with sender := s' } := by
      refine ⟨hNext.1, ?_, hDecode, ?_, ?_⟩
      · exact le_antisymm hNotPast hNext.2
      · unfold Covers
        rw [hKeeps.selectiveRepeat]
        exact hAnswered.covers
      · unfold Heeds
        rw [hPc]
    have hLeft :
        ({ z with sender := s' } : Session).sender.recvPc.toMove
          < actions.countP (Action.isOf .recvHandler) := by
      dsimp only
      rw [hPc]
      exact hTurns
    exact occurs_or_passes hHeeding hRun hLeft
      (fun _ _ _ hHere hStep hConnected =>
        Or.inr (heeding_step hHere hStep hConnected))
      hStays
  rcases hOccurs with ⟨_, _, _, _, _, _, _, _, hNever⟩ | hDone
  · exact False.elim hNever
  · exact hDone

/- A round trip moves the lower bound. -/
theorem above_of_roundTrip
    {x x' : Session}
    {n : Nat}
    (hAbove : Above n x)
    (hTrip : RoundTrip x x') :
    Above (n + 1) x' := by
  cases hTrip with
  | @made y y' z z' packet ack addr addr' actions hBefore
      hSent hLowest hArrives hArrival hAnswer hBetween
      hReturns hReturn hRun hTurns =>
      have hHere := above_of_reaches hAbove hBefore
      have hLow : Above packet.seq y := ⟨hHere.1, hLowest.le⟩
      rcases answered_of_lowest hHere.1 hSent hLowest hArrives
          hArrival with ⟨answer, hReplies, hCovers⟩
      have hSame : ack = answer := by
        rw [hAnswer] at hReplies
        exact List.singleton_inj.mp
          (List.append_cancel_left hReplies)
      subst hSame
      have hStart : Answered packet.seq ack y' := by
        refine ⟨above_step hLow hArrives hArrival, ?_, hCovers⟩
        rw [hAnswer]
        exact List.mem_append_right _
          (List.mem_singleton_self ack)
      have hAnswered : Answered packet.seq ack z :=
        hBetween.invariant hStart
          (fun _ _ _ hCurrent hNext hAllowed =>
            answered_step hCurrent hNext hAllowed)
      have hDone :=
        above_of_answered hAnswered hReturns hReturn hRun hTurns
      have hNumber : n ≤ packet.seq :=
        hHere.2.trans hLowest.ge
      exact ⟨hDone.1, (Nat.succ_le_succ hNumber).trans hDone.2⟩

theorem above_of_roundTrips
    {x x' : Session}
    {n k : Nat}
    (hAbove : Above n x)
    (hTrips : RoundTrips k x x') :
    Above (n + k) x' := by
  induction hTrips with
  | none => exact hAbove
  | more _ hTrip ih =>
      exact above_of_roundTrip (ih hAbove) hTrip

/-
  The protocol makes progress. The receiver answers every
  arrival of the lowest packet of the window. Every round
  trip of it, whatever else is lost, repeated or late, moves
  the lower bound: after `k` of them it is at least `k`
  higher, and the packets below it have been delivered.
-/
theorem advances_of_roundTrips
    {config : SenderConfig}
    {w : Nat}
    {x : Session}
    (hSize : 1 ≤ w)
    (hReach : Reaches step Connected (fresh config w) x) :
    (∀ packet ∈ x.requests, ∀ addr x',
        packet.seq = x.sender.window.lowerBound →
        x.step (.receive (.datagram packet.toBytes addr)) =
            some x' →
        Connected x
            (.receive (.datagram packet.toBytes addr)) x' →
        ∃ ack, x'.replies = x.replies ++ [ack]) ∧
      ∀ k x', RoundTrips k x x' →
        x.sender.window.lowerBound + k ≤
            x'.sender.window.lowerBound ∧
          (x'.sender.history.packets.take
              x'.sender.window.lowerBound).flatMap
                Packet.payload <+:
            Event.written x'.receiver.trace := by
  have hAttentive :=
    attentive_of_reaches (attentive_fresh config hSize) hReach
  refine ⟨?_, ?_⟩
  · intro packet hSent addr x' hLowest hStep hConnected
    rcases answered_of_lowest hAttentive hSent hLowest hStep
        hConnected with ⟨ack, hReplies, _⟩
    exact ⟨ack, hReplies⟩
  · intro k x' hTrips
    have hDone :=
      above_of_roundTrips ⟨hAttentive, le_rfl⟩ hTrips
    have hJoined := hDone.1.sustained.joined
    refine ⟨hDone.2, ?_⟩
    rw [hJoined.written_eq_take]
    exact (List.take_prefix_take_left hJoined.behind).flatMap _

/- The connection request makes its round trip. -/
theorem advances_of_roundTrips_connect :
    ∃ x x' : Session,
      x.sender.window.lowerBound = 0 ∧ RoundTrip x x' ∧
        1 ≤ x'.sender.window.lowerBound := by
  have hRun :
      ∃ x,
        Reaches step Connected
          (fresh ⟨1, 0, 1, false, false⟩ 1) x ∧
        (x.sender.window.lowerBound = 0 ∧
          (⟨version, .connReq, 0, []⟩ : Packet) ∈ x.requests ∧
          (x.step (arrives ⟨version, .connReq, 0, []⟩)).map
              replies =
            some (x.replies ++
              [⟨version, .connAck, 1, []⟩]) ∧
          (runActions step Connected x
            ([arrives ⟨version, .connReq, 0, []⟩] ++
              [Action.sender (.recv (.datagram
                (Packet.toBytes ⟨version, .connAck, 1, []⟩)
                ⟨0, 1⟩))] ++
              steps .recvHandler 11)).isSome = true) :=
    exists_reaches_of_runActions
      ([Action.sender (.call (.connect ⟨0, 1⟩))] ++
        steps .caller 10 ++ steps .sendHandler 13 ++
        steps .recvHandler 1)
      (by decide +kernel)
  rcases hRun with
    ⟨x, hReach, hLower, hSent, hReplies, hSome⟩
  rcases Option.isSome_iff_exists.mp hSome with ⟨x', hTrip⟩
  rcases runActions_cons hTrip with
    ⟨y', hArrives, hArrival, hRest⟩
  rcases runActions_cons hRest with
    ⟨z', hReturns, hReturn, hTurns⟩
  have hAnswer :
      y'.replies =
        x.replies ++ [⟨version, .connAck, 1, []⟩] := by
    rw [hArrives] at hReplies
    exact Option.some.inj hReplies
  have hRound : RoundTrip x x' :=
    .made .refl hSent hLower.symm hArrives hArrival hAnswer
      .refl hReturns hReturn hTurns (by decide)
  have hAdvances :=
    (advances_of_roundTrips (by decide) hReach).2 1 x'
      (.more (.none x) hRound)
  rw [hLower] at hAdvances
  exact ⟨x, x', hLower, hRound, hAdvances.1⟩

end Session

end Nkurdt
