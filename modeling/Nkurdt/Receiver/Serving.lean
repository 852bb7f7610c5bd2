import Nkurdt.Receiver.ControlState

/-
  A receiver that serves a sender.

  `upper` packets have been built, with the payloads that
  `P` gives. The receiver has written the payloads below its
  lower bound, it holds none but packets that were built,
  and its acknowledgements keep their promises. Either its
  loop runs in a connected state or the loop has ended.

  Main declarations:
    * `Packet.Plain`
    * `Receiver.Serving`
    * `Receiver.Serving.mono`
    * `Receiver.serving_onPacket`
    * `Receiver.serving_connReq`
-/

------------------------------------------------------------
-- Acknowledgements That Can Be Encoded
------------------------------------------------------------

namespace Nkurdt

/- An acknowledgement as the receiver builds it. -/
def Packet.Plain (ack : Packet) : Prop :=
  ack.kind.isAck = true ∧ ack.version = Nkurdt.version ∧
    ack.payload = []

theorem Packet.Plain.inRange
    {ack : Packet}
    (hPlain : ack.Plain)
    (hSeq : ack.seq < 2 ^ 32) :
    ack.InRange := by
  refine ⟨?_, hSeq, ?_⟩
  · rw [hPlain.2.1]
    decide
  · rw [hPlain.2.2]
    exact Nat.zero_le 65535

namespace Receiver

/- Every reply is a plain acknowledgement. -/
theorem plain_onPacket
    {r : Receiver}
    {packet : Packet}
    (addr : SocketAddr)
    (hRequest : (getAckKind packet.kind).isSome)
    (hPlain : ∀ ack ∈ Event.replies r.trace, ack.Plain) :
    ∀ ack ∈ Event.replies (r.onPacket packet addr).trace,
      ack.Plain := by
  rcases Option.isSome_iff_exists.mp hRequest with
    ⟨ackKind, hAck⟩
  intro ack hMember
  rcases mem_replies_onPacket hAck hMember with
    hOld | ⟨rfl, _⟩
  · exact hPlain ack hOld
  · exact ⟨isAck_of_getAckKind hAck, rfl, rfl⟩

/- What has been sent stays sent. -/
theorem replies_subset_onPacket
    {r : Receiver}
    {packet : Packet}
    (addr : SocketAddr)
    (hRequest : (getAckKind packet.kind).isSome) :
    Event.replies r.trace ⊆
      Event.replies (r.onPacket packet addr).trace := by
  rcases Option.isSome_iff_exists.mp hRequest with
    ⟨ackKind, hAck⟩
  intro ack hMember
  rcases onPacket_cases addr hAck with
    ⟨_, _, hStep⟩ | ⟨_, _, _, hStep⟩ | ⟨_, hStep⟩
  · rw [hStep, reply_eq, Event.replies_append]
    exact List.mem_append_left _ hMember
  · rw [hStep]
    split_ifs
    · exact hMember
    · rw [reply_eq, Event.replies_append]
      exact List.mem_append_left _ hMember
  · rw [hStep, accept_eq]
    dsimp only
    rw [Event.replies_append, replies_insertAndSlide,
      (switchState_frame r packet addr).2.2.2.2.2.1]
    exact List.mem_append_left _ hMember

end Receiver

end Nkurdt

------------------------------------------------------------
-- The Invariant
------------------------------------------------------------

namespace Nkurdt

namespace Receiver

structure Serving
    (P : Nat → List UInt8)
    (upper : Nat)
    (r : Receiver) : Prop where
  settled : r.Settled
  osIsSet : r.osIsSet = true
  streams : r.Streams P 0
  held : ∀ n, r.Held n → n < upper
  acks : ∀ ack ∈ Event.replies r.trace, r.SoundAck ack
  plain : ∀ ack ∈ Event.replies r.trace, ack.Plain
  status :
    (r.status = .looping ∧ r.running = true ∧
        r.state ≠ .idle) ∨
      r.status = .ended

/- The receiver delivers nothing that was not built. -/
theorem Serving.lower_le
    {P : Nat → List UInt8}
    {upper : Nat}
    {r : Receiver}
    (hServing : r.Serving P upper) :
    r.window.1 ≤ upper := by
  by_contra hAbove
  exact lt_irrefl upper
    (hServing.held upper (Or.inl (not_le.mp hAbove)))

/- While its loop runs, the receiver is connected. -/
theorem Serving.open_of_looping
    {P : Nat → List UInt8}
    {upper : Nat}
    {r : Receiver}
    (hServing : r.Serving P upper)
    (hLooping : r.status = .looping) :
    r.running = true ∧ r.state ≠ .idle := by
  rcases hServing.status with hRuns | hEnded
  · exact hRuns.2
  · rw [hLooping] at hEnded
    cases hEnded

/- What an acknowledgement promises has been built. -/
theorem Serving.seq_le
    {P : Nat → List UInt8}
    {upper : Nat}
    {r : Receiver}
    {ack : Packet}
    (hServing : r.Serving P upper)
    (hMember : ack ∈ Event.replies r.trace) :
    ack.seq ≤ upper := by
  have hSound := hServing.acks ack hMember
  unfold SoundAck at hSound
  split_ifs at hSound
  · exact (hServing.held ack.seq hSound).le
  · exact hSound.trans hServing.lower_le

/- More packets may be built. -/
theorem Serving.mono
    {P P' : Nat → List UInt8}
    {upper upper' : Nat}
    {r : Receiver}
    (hServing : r.Serving P upper)
    (hUpper : upper ≤ upper')
    (hSame : ∀ n, n < upper → P' n = P n) :
    r.Serving P' upper' := by
  have hLower := hServing.lower_le
  refine
    { hServing with
      streams := ⟨hServing.streams.base, ?_, ?_⟩
      held := fun n hHeld =>
        (hServing.held n hHeld).trans_le hUpper }
  · rw [hServing.streams.written]
    unfold payloads
    apply List.flatMap_congr
    intro n hMember
    rw [List.mem_range'_1] at hMember
    exact (hSame n (by omega)).symm
  · intro p hMember
    rw [hServing.streams.payload p hMember]
    exact (hSame p.seq
      (hServing.held p.seq (Or.inr ⟨p, hMember, rfl⟩))).symm

/-
  A packet that was built is served, provided that the
  receiver does not go idle without leaving its loop.
-/
theorem serving_onPacket
    {P : Nat → List UInt8}
    {upper : Nat}
    {r : Receiver}
    {packet : Packet}
    (addr : SocketAddr)
    (hServing : r.Serving P upper)
    (hLooping : r.status = .looping)
    (hRequest : (getAckKind packet.kind).isSome)
    (hSeq : packet.seq < upper)
    (hRoomy : r.Roomy packet)
    (hPayload : packet.payload = P packet.seq)
    (hEnds :
      (r.onPacket packet addr).state ≠ .idle ∨
        (r.onPacket packet addr).status = .ended) :
    (r.onPacket packet addr).Serving P upper := by
  have hOpen := hServing.open_of_looping hLooping
  have hConfig := config_onPacket r packet addr
  have hHeld :=
    held_onPacket addr hRequest hRoomy hOpen.2
      hServing.settled
  refine
    { settled :=
        settled_onPacket addr hRequest hRoomy hOpen.2
          hServing.settled
      osIsSet := hConfig.2.2.1.trans hServing.osIsSet
      streams :=
        streams_onPacket addr hRequest hRoomy hOpen.2
          hServing.settled hServing.osIsSet
          hServing.streams hPayload
      held := ?_
      acks :=
        soundAcks_onPacket addr hRequest hRoomy hOpen.2
          hServing.settled hServing.acks
      plain := plain_onPacket addr hRequest hServing.plain
      status := ?_ }
  · intro n hNow
    rcases (hHeld.1 n).mp hNow with hOld | ⟨rfl, _⟩
    · exact hServing.held n hOld
    · exact hSeq
  · refine hEnds.imp_left ?_
    intro hState
    rw [status_onPacket addr hRequest hState]
    exact ⟨hLooping, hConfig.2.2.2.trans hOpen.1, hState⟩

/- The connection request is served from the start. -/
theorem serving_connReq
    {w : Nat}
    {selectiveRepeat : Bool}
    {P : Nat → List UInt8}
    {packet : Packet}
    (addr : SocketAddr)
    (hSize : 1 ≤ w)
    (hKind : packet.kind = .connReq)
    (hSeq : packet.seq = 0)
    (hRoomy : packet.seq + w < 2 ^ 32)
    (hPayload : packet.payload = P packet.seq) :
    ((fresh w selectiveRepeat).onPacket packet addr).Serving
      P 1 := by
  have hRequest : (getAckKind packet.kind).isSome := by
    rw [hKind]
    rfl
  have hStart :
      Delivering w selectiveRepeat P packet.seq [packet.seq]
        ((fresh w selectiveRepeat).onPacket packet addr) :=
    delivering_connReq addr hSize hKind hRoomy hPayload
  have hStreams := hStart.streams
  rw [hSeq] at hStreams
  refine
    { settled := hStart.settled
      osIsSet := hStart.osIsSet
      streams := hStreams
      held := ?_
      acks := hStart.acks
      plain :=
        plain_onPacket addr hRequest
          (fun _ hMember => by cases hMember)
      status :=
        Or.inl ⟨hStart.looping.1, hStart.looping.2,
          hStart.connected⟩ }
  intro n hHeld
  rcases (hStart.held n).mp hHeld with hBelow | hFirst
  · omega
  · rw [List.mem_singleton.mp hFirst, hSeq]
    exact Nat.zero_lt_one

end Receiver

end Nkurdt
