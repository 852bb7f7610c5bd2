import Nkurdt.Session.Heard

/-
  Delivery over a session.

  The invariant joins the packets that the sender has built,
  what is on its way in either direction, and the window and
  the buffer of the receiver. The lower bound of the sender
  is behind the one of the receiver, and that one is behind
  the upper bound of the sender.

  Main declarations:
    * `Sender.payloadAt`
    * `Session.Joined`
    * `Session.joined_step`
    * `Session.delivered_inOrder`
    * `Session.acknowledged_delivered`
-/

------------------------------------------------------------
-- Payloads by Number
------------------------------------------------------------

namespace Nkurdt

namespace Sender

/- The payload that `send_packet` put under the number. -/
def payloadAt (s : Sender) (n : Nat) : List UInt8 :=
  (s.history.packets[n]?.map Packet.payload).getD []

theorem payloadAt_of_built
    {s : Sender}
    {n : Nat}
    {p : Packet}
    (hBuilt : s.Built n p) :
    s.payloadAt n = p.payload := by
  unfold payloadAt
  unfold Built at hBuilt
  rw [hBuilt]
  rfl

/- The payloads of the first packets, one after the other. -/
theorem payloads_payloadAt
    {s : Sender}
    {n : Nat}
    (hLe : n ≤ s.history.packets.length) :
    Receiver.payloads s.payloadAt 0 n =
      (s.history.packets.take n).flatMap Packet.payload := by
  induction n with
  | zero => rfl
  | succ n ih =>
      have hLess : n < s.history.packets.length := hLe
      have hBuilt : s.Built n s.history.packets[n] :=
        List.getElem?_eq_getElem hLess
      rw [Receiver.payloads_succ (Nat.zero_le n),
        ih hLess.le, payloadAt_of_built hBuilt,
        List.take_succ_eq_append_getElem hLess,
        List.flatMap_append, List.flatMap_singleton]

/- A step builds at most one packet. -/
theorem packets_step
    {s s' : Sender}
    {action : Action}
    (hStep : s.step action = some s') :
    s'.history.packets = s.history.packets ∨
      ∃ p, s'.history.packets = s.history.packets ++ [p] := by
  by_cases hCaller : action = .thread .caller
  · subst hCaller
    cases callerMove_callerStep hStep with
    | builds t seq _ _ _ _ hPackets =>
        exact Or.inr ⟨_, hPackets⟩
    | enters _ _ _ _ _ hPackets => exact Or.inl hPackets
    | reads _ _ _ _ hPackets => exact Or.inl hPackets
    | stays _ hSame
    | skips _ _ _ hSame
    | abandons _ _ _ _ hSame
    | finishes _ _ _ _ hSame
    | returns _ _ _ _ hSame
    | opens _ _ hSame
    | ends _ _ _ hSame
    | drains _ _ _ hSame
    | cancels _ _ _ hSame
    | stops _ _ hSame
    | divides _ _ hSame
    | quits _ _ hSame => exact Or.inl hSame.packets
  by_cases hCall : ∃ call, action = .call call
  · rcases hCall with ⟨call, rfl⟩
    exact Or.inl (callBegins_callStep hStep).packets
  · exact Or.inl
      (callKept_step hStep
        (fun call hEqual => hCall ⟨call, hEqual⟩)
        hCaller).packets

/- A packet that was built keeps its payload. -/
theorem payloadAt_step
    {s s' : Sender}
    {action : Action}
    (hStep : s.step action = some s')
    {n : Nat}
    (hOld : n < s.history.packets.length) :
    s'.payloadAt n = s.payloadAt n := by
  unfold payloadAt
  rcases packets_step hStep with hSame | ⟨p, hNew⟩
  · rw [hSame]
  · rw [hNew, List.getElem?_append_left hOld]

end Sender

end Nkurdt

------------------------------------------------------------
-- The Invariant
------------------------------------------------------------

namespace Nkurdt

namespace Session

open Sender

/-
  Either the receiver has heard nothing and the connection
  is not answered, or the receiver serves the packets that
  have been built.
-/
def Served (x : Session) : Prop :=
  (Opening x.sender ∧
      x.receiver =
        Receiver.fresh x.receiver.maxWindowSize
          x.sender.selectiveRepeat) ∨
    x.receiver.Serving x.sender.payloadAt
      x.sender.window.upperBound

structure Joined (x : Session) : Prop where
  originals : Originals x.sender
  answering : Answering x.sender
  streamed : Streamed x.sender
  windowed : Windowed x.sender
  ready : WindowReady x.sender
  heard : Heard x.replies x.sender
  running : x.sender.running = true
  mode :
    x.receiver.selectiveRepeat = x.sender.selectiveRepeat
  size : 1 ≤ x.receiver.maxWindowSize
  room : x.sender.window.upperBound + 1 < 2 ^ 32
  behind :
    x.sender.window.lowerBound ≤ x.receiver.window.1
  served : x.Served

theorem joined_fresh
    (config : SenderConfig)
    {w : Nat}
    (hSize : 1 ≤ w) :
    Joined (fresh config w) where
  originals := originals_fresh config
  answering := answering_fresh config
  streamed := streamed_fresh config
  windowed := windowed_fresh config
  ready := windowReady_fresh config
  heard := heard_fresh config _
  running := rfl
  mode := rfl
  size := hSize
  room := by
    change 0 + 1 < 2 ^ 32
    decide
  behind := Nat.le_refl 0
  served := Or.inl ⟨.resting rfl rfl rfl, rfl⟩

/- The receiver holds nothing that was not built. -/
theorem Joined.held_lt
    {x : Session}
    (hJoined : Joined x)
    {n : Nat}
    (hHeld : x.receiver.Held n) :
    n < x.sender.window.upperBound := by
  rcases hJoined.served with ⟨_, hFresh⟩ | hServing
  · rw [hFresh] at hHeld
    rcases hHeld with hBelow | ⟨p, hMember, _⟩
    · exact absurd hBelow (Nat.not_lt_zero n)
    · exact absurd hMember (OrderedSet.not_mem_empty p)
  · exact hServing.held n hHeld

/- The receiver waits for the packet at its lower bound. -/
theorem Joined.not_held_lower
    {x : Session}
    (hJoined : Joined x) :
    ¬ x.receiver.Held x.receiver.window.1 := by
  intro hHeld
  rcases hJoined.served with ⟨_, hFresh⟩ | hServing
  · rw [hFresh] at hHeld
    rcases hHeld with hBelow | ⟨p, hMember, _⟩
    · exact Nat.lt_irrefl _ hBelow
    · exact OrderedSet.not_mem_empty p hMember
  · exact hServing.settled.not_held_lower hHeld

theorem Joined.first_le
    {x : Session}
    (hJoined : Joined x) :
    x.receiver.window.1 ≤ x.sender.window.upperBound := by
  rcases hJoined.served with ⟨_, hFresh⟩ | hServing
  · rw [hFresh]
    exact Nat.zero_le _
  · exact hServing.lower_le

/- Every reply keeps its promise, and it can be decoded. -/
theorem Joined.reply_sound
    {x : Session}
    (hJoined : Joined x)
    {ack : Packet}
    (hMember : ack ∈ x.replies) :
    x.receiver.SoundAck ack ∧
      Packet.fromBytes ack.toBytes = some (some ack) := by
  rcases hJoined.served with ⟨_, hFresh⟩ | hServing
  · unfold replies at hMember
    rw [hFresh] at hMember
    cases hMember
  · have hSeq := hServing.seq_le hMember
    have hBounded := hJoined.originals.bounded
    refine ⟨hServing.acks ack hMember, ?_⟩
    exact Packet.fromBytes_toBytes
      ((hServing.plain ack hMember).inRange (by omega))

/- An acknowledged number is held, and it was built. -/
theorem Joined.acked_held
    {x : Session}
    (hJoined : Joined x)
    (hMode : x.sender.selectiveRepeat = true)
    {n : Nat}
    (hMember : n ∈ x.sender.ackedSeqSet) :
    x.receiver.Held n := by
  rcases hJoined.heard.acked n hMember with
    ⟨ack, hReply, rfl⟩
  have hSound := (hJoined.reply_sound hReply).1
  unfold Receiver.SoundAck at hSound
  rw [hJoined.mode, hMode, if_pos rfl] at hSound
  exact hSound

end Session

end Nkurdt

------------------------------------------------------------
-- Steps of the Sender
------------------------------------------------------------

namespace Nkurdt

namespace Session

open Sender

/- The lower bound moves up, and not past the receiver's. -/
theorem lower_step
    {x : Session}
    {s' : Sender}
    {action : Sender.Action}
    (hJoined : Joined x)
    (hStep : x.sender.step action = some s') :
    x.sender.window.lowerBound ≤ s'.window.lowerBound ∧
      s'.window.lowerBound ≤ x.receiver.window.1 := by
  have hBehind := hJoined.behind
  by_cases hRecv : action = .thread .recvHandler
  · subst hRecv
    rcases lower_recvHandlerStep hStep with
      hSame | ⟨packet, hPc, hSet⟩ | ⟨hPc, hMember, hNext⟩
    · rw [hSame]
      exact ⟨le_rfl, hBehind⟩
    · have hGoBackN : x.sender.selectiveRepeat = false :=
        hJoined.ready.goBackN (by rw [hPc]; trivial)
      have hReply :=
        hJoined.heard.inHand packet (by rw [hPc]; rfl)
      have hSound := (hJoined.reply_sound hReply).1
      unfold Receiver.SoundAck at hSound
      rw [hJoined.mode, hGoBackN,
        if_neg Bool.false_ne_true] at hSound
      rw [hSet]
      exact ⟨(hJoined.heard.ahead packet hPc).le, hSound⟩
    · have hHeld :=
        hJoined.acked_held (hJoined.ready.slide hPc) hMember
      have hBuilt := hJoined.held_lt hHeld
      have hRoom := hJoined.room
      have hUpdate :
          SequenceNumber.update x.sender.window.lowerBound =
            x.sender.window.lowerBound + 1 :=
        SequenceNumber.update_of_lt (by omega)
      rw [hNext, hUpdate]
      refine ⟨Nat.le_succ _, ?_⟩
      apply Nat.lt_of_le_of_ne hBehind
      intro hEqual
      rw [hEqual] at hHeld
      exact hJoined.not_held_lower hHeld
  · rw [(step_keeps hStep hRecv).lowerBound]
    exact ⟨le_rfl, hBehind⟩

/- Neither bound falls back. -/
theorem noWrap_step
    {x : Session}
    {s' : Sender}
    {action : Sender.Action}
    (hJoined : Joined x)
    (hStep : x.sender.step action = some s') :
    NoWrap x.sender s' := by
  refine ⟨(lower_step hJoined hStep).1, ?_⟩
  have hRoom := hJoined.room
  rcases upperBound_step hStep with hSame | hNext
  · exact hSame.ge
  · rw [hNext, SequenceNumber.update_of_lt (by omega)]
    exact Nat.le_succ _

theorem served_senderStep
    {x : Session}
    {s' : Sender}
    {action : Sender.Action}
    (hJoined : Joined x)
    (hStep : x.sender.step action = some s')
    (hFollows : x.CallsFollow (.sender action)) :
    Served { x with sender := s' } := by
  have hMode := (sameConfig_step hStep).selectiveRepeat
  have hUpper := (noWrap_step hJoined hStep).upper
  rcases hJoined.served with ⟨hOpening, hFresh⟩ | hServing
  · left
    have hHeard : Heard [] x.sender := by
      have hSilent : x.replies = [] := by
        unfold replies
        rw [hFresh]
        rfl
      rw [← hSilent]
      exact hJoined.heard
    refine ⟨?_, ?_⟩
    · apply opening_step hOpening hJoined.originals
        hJoined.answering hJoined.running
        hHeard.target_eq_none hStep
      intro call hCall
      subst hCall
      exact hFollows
    · dsimp only
      rw [hMode]
      exact hFresh
  · right
    apply hServing.mono hUpper
    intro n hLess
    rw [← hJoined.originals.length] at hLess
    exact payloadAt_step hStep hLess

/- Every step of the sender keeps the two sides joined. -/
theorem joined_senderStep
    {x : Session}
    {s' : Sender}
    {action : Sender.Action}
    (hJoined : Joined x)
    (hStep : x.sender.step action = some s')
    (hUndisturbed :
      Undisturbed x (.sender action)
        { x with sender := s' }) :
    Joined { x with sender := s' } := by
  have hWrap := noWrap_step hJoined hStep
  have hConfig := sameConfig_step hStep
  have hSize := hJoined.size
  have hRoom := hUndisturbed.receiverRoom
  have hBounded := hJoined.originals.bounded
  have hBounds :
      x.sender.window.lowerBound ≤
        x.sender.window.upperBound :=
    hJoined.behind.trans hJoined.first_le
  exact
    { originals :=
        originals_step hJoined.originals hStep hWrap
      answering :=
        answering_step hJoined.answering hStep
          hUndisturbed.exhausted
      streamed :=
        streamed_step hJoined.streamed hJoined.answering
          hJoined.running hStep
      windowed :=
        windowed_step hJoined.windowed hBounds hBounded
          hStep hConfig.maxWindowSize hWrap
      ready := windowReady_step hJoined.ready hStep
      heard := by
        apply heard_step hJoined.heard
          (fun ack hReply => (hJoined.reply_sound hReply).2)
          ?_ hStep
        intro result hSocket
        subst hSocket
        exact hUndisturbed.delivers
      running := hUndisturbed.running
      mode := hJoined.mode.trans hConfig.selectiveRepeat.symm
      size := hSize
      room := by
        dsimp only at hRoom ⊢
        omega
      behind := (lower_step hJoined hStep).2
      served :=
        served_senderStep hJoined hStep
          hUndisturbed.follows }

end Session

end Nkurdt

------------------------------------------------------------
-- Iterations of the Receiver
------------------------------------------------------------

namespace Nkurdt

namespace Session

open Sender

/- The packet that opens a session. -/
theorem eq_of_opening
    {x : Session}
    {packet : Packet}
    (hOpening : Opening x.sender)
    (hBuilt : x.sender.Built packet.seq packet) :
    x.sender.history.packets = [packet] ∧
      packet.kind = .connReq ∧ packet.seq = 0 := by
  unfold Built at hBuilt
  cases hOpening with
  | resting _ _ hEmpty
  | calling _ _ hEmpty
  | building _ _ hEmpty =>
      rw [hEmpty] at hBuilt
      cases hBuilt
  | waiting _ _ hFirst =>
      rw [hFirst] at hBuilt ⊢
      have hOnly :=
        List.mem_singleton.mp
          (List.mem_of_getElem? hBuilt)
      subst hOnly
      exact ⟨rfl, rfl, rfl⟩

/- An iteration on a packet that was built is served. -/
theorem served_onPacket
    {x : Session}
    {packet : Packet}
    (addr : SocketAddr)
    (hJoined : Joined x)
    (hBuilt : x.sender.Built packet.seq packet)
    (hLooping : x.receiver.status = .looping)
    (hRoom :
      x.sender.window.upperBound +
        x.receiver.maxWindowSize < 2 ^ 32)
    (hEnds :
      x.receiver.state ≠ .idle →
        (x.receiver.onPacket packet addr).state ≠ .idle ∨
          (x.receiver.onPacket packet addr).status =
            .ended) :
    (x.receiver.onPacket packet addr).Serving
        x.sender.payloadAt x.sender.window.upperBound ∧
      x.receiver.window.1 ≤
        (x.receiver.onPacket packet addr).window.1 := by
  have hSeq := hJoined.originals.lt_upperBound hBuilt
  have hRequest := (hJoined.originals.inRange hBuilt).2
  have hPayload := (payloadAt_of_built hBuilt).symm
  rcases hJoined.served with ⟨hOpening, hFresh⟩ | hServing
  · obtain ⟨hPackets, hKind, hFirst⟩ :=
      eq_of_opening hOpening hBuilt
    have hUpper : x.sender.window.upperBound = 1 := by
      rw [← hJoined.originals.length, hPackets]
      rfl
    rw [hUpper]
    rw [hFresh]
    refine ⟨?_, Nat.zero_le _⟩
    exact Receiver.serving_connReq addr hJoined.size hKind
      hFirst (by omega) hPayload
  · have hState := (hServing.open_of_looping hLooping).2
    have hRoomy : x.receiver.Roomy packet := by
      unfold Receiver.Roomy
      omega
    exact ⟨Receiver.serving_onPacket addr hServing hLooping
        hRequest hSeq hRoomy hPayload (hEnds hState),
      (Receiver.held_onPacket addr hRequest hRoomy hState
        hServing.settled).2⟩

theorem joined_onPacket
    {x : Session}
    {packet : Packet}
    (addr : SocketAddr)
    (hJoined : Joined x)
    (hBuilt : x.sender.Built packet.seq packet)
    (hLooping : x.receiver.status = .looping)
    (hRoom :
      x.sender.window.upperBound +
        x.receiver.maxWindowSize < 2 ^ 32)
    (hEnds :
      x.receiver.state ≠ .idle →
        (x.receiver.onPacket packet addr).state ≠ .idle ∨
          (x.receiver.onPacket packet addr).status =
            .ended) :
    Joined
      { x with
        receiver := x.receiver.onPacket packet addr } := by
  have hServed :=
    served_onPacket addr hJoined hBuilt hLooping hRoom hEnds
  have hConfig := Receiver.config_onPacket x.receiver packet addr
  have hRequest := (hJoined.originals.inRange hBuilt).2
  exact
    { hJoined with
      heard :=
        hJoined.heard.mono
          (Receiver.replies_subset_onPacket addr hRequest)
      mode := hConfig.2.1.trans hJoined.mode
      size := by
        dsimp only
        rw [hConfig.1]
        exact hJoined.size
      behind := hJoined.behind.trans hServed.2
      served := Or.inr hServed.1 }

/-
  Every step keeps the two sides joined, provided that the
  receiver does not go idle without leaving its loop.
-/
theorem joined_step
    {x x' : Session}
    {action : Action}
    (hJoined : Joined x)
    (hStep : x.step action = some x')
    (hUndisturbed : Undisturbed x action x')
    (hEnds :
      ∀ packet addr,
        x.sender.Built packet.seq packet →
        x.receiver.status = .looping →
        x.receiver.state ≠ .idle →
          (x.receiver.onPacket packet addr).state ≠ .idle ∨
            (x.receiver.onPacket packet addr).status =
              .ended) :
    Joined x' := by
  cases action with
  | sender action =>
      rcases Option.map_eq_some_iff.mp hStep with
        ⟨s', hSender, rfl⟩
      exact joined_senderStep hJoined hSender hUndisturbed
  | receive result =>
      cases hStep
      rcases recvStep_of_carries hJoined.originals
          hUndisturbed.delivers with
        hSame | ⟨packet, addr, hBuilt, hLooping, hNext⟩
      · rw [hSame]
        exact hJoined
      · rw [hNext] at hUndisturbed ⊢
        exact joined_onPacket addr hJoined hBuilt hLooping
          hUndisturbed.room
          (hEnds packet addr hBuilt hLooping)

end Session

end Nkurdt

------------------------------------------------------------
-- Sessions Without a Disconnection
------------------------------------------------------------

namespace Nkurdt

namespace Session

open Sender
open Runs

/- A packet that does not disconnect stays connected. -/
theorem state_onPacket_ne_idle
    {r : Receiver}
    {packet : Packet}
    (addr : SocketAddr)
    (hRequest : (getAckKind packet.kind).isSome)
    (hKind : packet.kind ≠ .disconnReq)
    (hState : r.state ≠ .idle) :
    (r.onPacket packet addr).state ≠ .idle := by
  rw [Receiver.state_onPacket addr hRequest hState]
  split_ifs
  · exact Receiver.switchState_ne_idle addr hState hKind
  · exact hState

/- What every session keeps until it disconnects. -/
structure Sustained (x : Session) : Prop where
  joined : Joined x
  never : NeverDisconnects x.sender

theorem sustained_step
    {x x' : Session}
    {action : Action}
    (hSustained : Sustained x)
    (hStep : x.step action = some x')
    (hConnected : Connected x action x') :
    Sustained x' := by
  have hJoined := hSustained.joined
  refine ⟨?_, ?_⟩
  · apply joined_step hJoined hStep hConnected.toUndisturbed
    intro packet addr hBuilt _ hState
    left
    apply state_onPacket_ne_idle addr
      (hJoined.originals.inRange hBuilt).2 ?_ hState
    exact hSustained.never.kinds packet
      (List.mem_of_getElem? hBuilt)
  · cases action with
    | sender action =>
        rcases Option.map_eq_some_iff.mp hStep with
          ⟨s', hSender, rfl⟩
        apply neverDisconnects_step hSustained.never hSender
        intro hCall
        subst hCall
        exact hConnected.stays rfl
    | receive result =>
        cases hStep
        exact hSustained.never

theorem sustained_of_reaches
    {config : SenderConfig}
    {w : Nat}
    {x : Session}
    (hSize : 1 ≤ w)
    (hReach : Reaches step Connected (fresh config w) x) :
    Sustained x :=
  hReach.invariant
    ⟨joined_fresh config hSize,
      neverDisconnects_fresh config⟩
    (fun _ _ _ hCurrent hNext hAllowed =>
      sustained_step hCurrent hNext hAllowed)

end Session

end Nkurdt

------------------------------------------------------------
-- A Session That Sends a Stream
------------------------------------------------------------

namespace Nkurdt

namespace Session

open Runs

/- The connection, up to the return of the call. -/
def connecting : List Action :=
  [.sender (.call (.connect ⟨0, 1⟩))] ++
    steps .caller 10 ++
    exchange ((Transfer.request .connect).packet 0)
      .connAck 1 13 ++
    steps .caller 3

/- Three bytes are sent, up to the wait for the window. -/
def sending : List Action :=
  [.sender (.call (.send (.ofBytes [1, 2, 3])))] ++
    steps .caller 10 ++
    exchange ((Transfer.request .push).packet 1)
      .dataPushAck 2 13 ++
    steps .caller 11 ++
    exchange ((Transfer.data [1, 2, 3]).packet 2)
      .dataAck 3 9 ++
    steps .caller 1

theorem exists_sent :
    ∃ x,
      Reaches step Connected
        (fresh ⟨1, 0, 1, false, false⟩ 1) x ∧
      (x.sender.callerPc = .waitZero ∧
        x.sender.window.Zero ∧
        x.sender.locks.window = none ∧
        Event.written x.receiver.trace = [1, 2, 3]) :=
  exists_reaches_of_runActions (connecting ++ sending)
    (by decide +kernel)

end Session

end Nkurdt

------------------------------------------------------------
-- Delivery
------------------------------------------------------------

namespace Nkurdt

namespace Session

open Sender
open Runs

/- The output is what the delivered packets carry. -/
theorem Joined.written_eq
    {x : Session}
    (hJoined : Joined x) :
    Event.written x.receiver.trace =
      Receiver.payloads x.sender.payloadAt 0
        x.receiver.window.1 := by
  rcases hJoined.served with ⟨_, hFresh⟩ | hServing
  · rw [hFresh]
    rfl
  · exact hServing.streams.written

theorem Joined.written_eq_take
    {x : Session}
    (hJoined : Joined x) :
    Event.written x.receiver.trace =
      (x.sender.history.packets.take
        x.receiver.window.1).flatMap Packet.payload := by
  rw [hJoined.written_eq]
  apply payloads_payloadAt
  rw [hJoined.originals.length]
  exact hJoined.first_le

/-
  Before any disconnection the output is the payloads of the
  packets below the lower bound of the receiver, each once
  and in the order of their numbers. It is a prefix of the
  streams passed to `send`.
-/
theorem delivered_inOrder
    {config : SenderConfig}
    {w : Nat}
    {x : Session}
    (hSize : 1 ≤ w)
    (hReach : Reaches step Connected (fresh config w) x) :
    Event.written x.receiver.trace =
        Receiver.payloads x.sender.payloadAt 0
          x.receiver.window.1 ∧
      (∀ n, n < x.receiver.window.1 →
        ∃ p, x.sender.Built n p ∧ p.seq = n ∧
          x.sender.payloadAt n = p.payload) ∧
      Event.written x.receiver.trace <+:
        x.sender.history.streams.flatten := by
  have hJoined :=
    (sustained_of_reaches hSize hReach).joined
  refine ⟨hJoined.written_eq, ?_, ?_⟩
  · intro n hLess
    rcases hJoined.originals.exists_built
        (hLess.trans_le hJoined.first_le) with
      ⟨p, hBuilt⟩
    exact ⟨p, hBuilt, hJoined.originals.seq_eq hBuilt,
      payloadAt_of_built hBuilt⟩
  · have hCut :=
      congrArg (List.flatMap Packet.payload)
        (List.take_append_drop x.receiver.window.1
          x.sender.history.packets)
    rw [List.flatMap_append] at hCut
    rw [hJoined.written_eq_take, ← hJoined.streamed.sum,
      ← hCut, List.append_assoc]
    exact List.prefix_append _ _

/- The three bytes are written once and in order. -/
theorem delivered_inOrder_sent :
    ∃ x,
      Reaches step Connected
        (fresh ⟨1, 0, 1, false, false⟩ 1) x ∧
      Event.written x.receiver.trace = [1, 2, 3] ∧
      Event.written x.receiver.trace =
        Receiver.payloads x.sender.payloadAt 0
          x.receiver.window.1 ∧
      Event.written x.receiver.trace <+:
        x.sender.history.streams.flatten := by
  rcases exists_sent with ⟨x, hReach, _, _, _, hWritten⟩
  have hDelivered := delivered_inOrder (by decide) hReach
  exact ⟨x, hReach, hWritten, hDelivered.1,
    hDelivered.2.2⟩

end Session

end Nkurdt

------------------------------------------------------------
-- Acknowledgements
------------------------------------------------------------

namespace Nkurdt

namespace Session

open Sender
open Runs

/- With an empty window everything that was built is out. -/
theorem Joined.written_of_zero
    {x : Session}
    (hJoined : Joined x)
    (hZero : x.sender.window.Zero) :
    Event.written x.receiver.trace =
      x.sender.history.packets.flatMap Packet.payload := by
  have hBehind := hJoined.behind
  have hFirst := hJoined.first_le
  have hLength := hJoined.originals.length
  have hEqual :
      x.sender.window.upperBound =
        x.sender.window.lowerBound := hZero
  rw [hJoined.written_eq_take,
    List.take_of_length_le (by omega)]

/-
  Before any disconnection the window of the sender is in
  order and holds at most the packets it is configured for.
  Below its lower bound everything is delivered, in
  selective repeat every number in the set of acknowledged
  ones is delivered or buffered, and when the wait for an
  empty window is over the output is all streams so far.
-/
theorem acknowledged_delivered
    {config : SenderConfig}
    {w : Nat}
    {x : Session}
    (hSize : 1 ≤ w)
    (hReach : Reaches step Connected (fresh config w) x) :
    x.sender.window.lowerBound ≤
        x.sender.window.upperBound ∧
      x.sender.window.upperBound ≤
        x.sender.window.lowerBound +
          x.sender.window.maxWindowSize ∧
      x.sender.window.lowerBound ≤ x.receiver.window.1 ∧
      x.receiver.window.1 ≤ x.sender.window.upperBound ∧
      (x.sender.selectiveRepeat = true →
        ∀ n ∈ x.sender.ackedSeqSet,
          n < x.receiver.window.1 ∨
            ∃ p ∈ x.receiver.recvBuffer, p.seq = n) ∧
      ∀ s',
        x.sender.callerPc = .waitZero →
        x.sender.callerStep = some s' →
        s'.callerPc = .throughput →
          x.sender.stream.content = [] ∧
            Event.written x.receiver.trace =
              x.sender.history.streams.flatten := by
  have hJoined :=
    (sustained_of_reaches hSize hReach).joined
  refine ⟨hJoined.behind.trans hJoined.first_le,
    hJoined.windowed.size, hJoined.behind,
    hJoined.first_le, ?_, ?_⟩
  · exact fun hMode n hMember =>
      hJoined.acked_held hMode hMember
  · intro s' hPc hStep hNext
    have hZero : x.sender.window.Zero := by
      unfold Sender.callerStep at hStep
      simp only [hPc, whenFree_eq_some] at hStep
      rcases hStep with ⟨_, rfl⟩
      dsimp only at hNext
      split_ifs at hNext with hEmpty
      exact hEmpty
    have hSum := hJoined.streamed.sum
    have hUnread := hJoined.streamed.unread
    rw [hPc] at hSum hUnread
    have hRead : x.sender.stream.content = [] :=
      hUnread (fun hStreams => hStreams)
    refine ⟨hRead, ?_⟩
    rw [hJoined.written_of_zero hZero, ← hSum, hRead]
    exact (List.append_nil _).symm

/- The wait behind the three bytes ends with all of them. -/
theorem acknowledged_delivered_sent :
    ∃ x s',
      Reaches step Connected
        (fresh ⟨1, 0, 1, false, false⟩ 1) x ∧
      x.sender.callerStep = some s' ∧
      s'.callerPc = .throughput ∧
      Event.written x.receiver.trace = [1, 2, 3] ∧
      Event.written x.receiver.trace =
        x.sender.history.streams.flatten := by
  rcases exists_sent with
    ⟨x, hReach, hPc, hZero, hFree, hWritten⟩
  have hStep :
      x.sender.callerStep =
        some { x.sender with callerPc := .throughput } := by
    unfold Sender.callerStep
    simp only [hPc, Sender.whenFree_eq_some]
    exact ⟨hFree, by rw [if_pos hZero]⟩
  have hSound := acknowledged_delivered (by decide) hReach
  obtain ⟨_, _, _, _, _, hOut⟩ := hSound
  exact ⟨x, _, hReach, hStep, rfl, hWritten,
    (hOut _ hPc hStep rfl).2⟩

end Session

end Nkurdt
