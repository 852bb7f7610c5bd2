import Nkurdt.Receiver.Buffer

/-
  Delivery as a function of what arrived.

  `Held` says that a number is delivered or buffered and
  `Streams` that the output is the payloads of the delivered
  numbers. Both are followed through the slide loop and from
  there through an iteration; a run then holds exactly the
  numbers it accepted.

  Main declarations:
    * `Receiver.Held`
    * `Receiver.Streams`
    * `Receiver.held_onPacket`
    * `Receiver.streams_onPacket`
    * `Receiver.acceptedNumbers`
    * `Receiver.delivered_recvPackets`
-/

------------------------------------------------------------
-- Delivered and Buffered Numbers
------------------------------------------------------------

namespace Nkurdt

namespace Receiver

/- The number is delivered or waits in the buffer. -/
def Held (r : Receiver) (n : Nat) : Prop :=
  n < r.window.1 ∨ ∃ p ∈ r.recvBuffer, p.seq = n

instance (r : Receiver) (n : Nat) : Decidable (r.Held n) :=
  inferInstanceAs
    (Decidable (_ < _ ∨ ∃ p ∈ r.recvBuffer.elems, _))

/- The payloads of the numbers from `c` up to `n`. -/
def payloads
    (P : Nat → List UInt8)
    (c n : Nat) : List UInt8 :=
  (List.range' c (n - c)).flatMap P

@[simp] theorem payloads_self
    (P : Nat → List UInt8)
    (c : Nat) :
    payloads P c c = [] := by
  simp [payloads]

/- One more number adds its payload at the end. -/
theorem payloads_succ
    {P : Nat → List UInt8}
    {c n : Nat}
    (hLe : c ≤ n) :
    payloads P c (n + 1) = payloads P c n ++ P n := by
  unfold payloads
  have hCount : n + 1 - c = (n - c) + 1 := by
    omega
  rw [hCount, List.range'_concat]
  have hLast : c + (n - c) = n := by
    omega
  simp [hLast]

/-
  The output is the payloads of the delivered numbers, under
  a function that gives the payload of every number, and the
  buffered packets carry the payloads of their numbers.
-/
structure Streams
    (P : Nat → List UInt8)
    (c : Nat)
    (r : Receiver) : Prop where
  base : c ≤ r.window.1
  written : Event.written r.trace = payloads P c r.window.1
  payload : ∀ p ∈ r.recvBuffer, p.payload = P p.seq

/- The lower bound is missing once the loop has stopped. -/
theorem Settled.held_iff_of_le
    {r : Receiver}
    (hSettled : r.Settled)
    {n : Nat} :
    (∃ p ∈ r.recvBuffer, p.seq = n) ↔
      r.Held n ∧ r.window.1 ≤ n := by
  constructor
  · intro hBuffered
    refine ⟨Or.inr hBuffered, ?_⟩
    rcases hBuffered with ⟨p, hMember, hNumber⟩
    rw [← hNumber]
    exact hSettled.low p hMember
  · intro hHeld
    exact hHeld.1.resolve_left (not_lt.mpr hHeld.2)

theorem Settled.not_held_lower
    {r : Receiver}
    (hSettled : r.Settled) :
    ¬ r.Held r.window.1 := by
  intro hHeld
  rcases hSettled.held_iff_of_le.mpr ⟨hHeld, le_rfl⟩ with
    ⟨p, hMember, hNumber⟩
  exact (hSettled.lt_lower hMember).1.ne' hNumber

end Receiver

end Nkurdt

------------------------------------------------------------
-- Delivery by the Slide Loop
------------------------------------------------------------

namespace Nkurdt

namespace Receiver

/-
  The loop around a receiver that started it as `origin`: no
  number is gained or lost.
-/
structure Sliding (origin r : Receiver) : Prop where
  slidable : r.Slidable
  held : ∀ n, r.Held n ↔ origin.Held n
  lower : origin.window.1 ≤ r.window.1

/- A round moves the lower bound up by one. -/
theorem update_lower_slideStep
    {r : Receiver}
    {first : Packet}
    (hSlidable : r.Slidable)
    (hFirst : r.recvBuffer.first? = some first)
    (hExpected : first.seq = r.window.1) :
    SequenceNumber.update r.window.1 = r.window.1 + 1 := by
  have hMember := (OrderedSet.first?_eq_some hFirst).1
  have hRoomy := hSlidable.roomy first hMember
  have hPositive := hSlidable.positive
  unfold Roomy at hRoomy
  exact SequenceNumber.update_of_lt (by omega)

theorem sliding_slideStep
    {origin r next : Receiver}
    (hSliding : Sliding origin r)
    (hStep : r.slideStep = some next) :
    Sliding origin next := by
  have hSlidable :=
    slidable_slideStep hSliding.slidable hStep
  rcases slideStep_eq_some hStep with
    ⟨first, hFirst, hExpected, rfl⟩
  have hMember := (OrderedSet.first?_eq_some hFirst).1
  have hLower :=
    update_lower_slideStep hSliding.slidable hFirst
      hExpected
  refine ⟨hSlidable, ?_, ?_⟩
  · intro n
    rw [← hSliding.held n]
    unfold Held
    dsimp only
    rw [hLower]
    constructor
    · intro hHeld
      rcases hHeld with hBelow | ⟨p, hErased, hNumber⟩
      · by_cases hOld : n < r.window.1
        · exact Or.inl hOld
        · exact Or.inr ⟨first, hMember, by omega⟩
      · exact Or.inr ⟨p,
          ((OrderedSet.mem_eraseFirst_iff hFirst).mp
            hErased).1, hNumber⟩
    · intro hHeld
      rcases hHeld with hBelow | ⟨p, hBuffered, hNumber⟩
      · exact Or.inl (by omega)
      · by_cases hFront : p.seq = first.seq
        · exact Or.inl (by omega)
        · exact Or.inr ⟨p,
            (OrderedSet.mem_eraseFirst_iff hFirst).mpr
              ⟨hBuffered, hFront⟩, hNumber⟩
  · have hOrigin := hSliding.lower
    dsimp only
    omega

/- A round writes the payload of the number it passes. -/
theorem streams_slideStep
    {P : Nat → List UInt8}
    {c : Nat}
    {r next : Receiver}
    (hSlidable : r.Slidable)
    (hOs : r.osIsSet = true)
    (hStreams : r.Streams P c)
    (hStep : r.slideStep = some next) :
    next.Streams P c := by
  rcases slideStep_eq_some hStep with
    ⟨first, hFirst, hExpected, rfl⟩
  have hMember := (OrderedSet.first?_eq_some hFirst).1
  have hLower :=
    update_lower_slideStep hSlidable hFirst hExpected
  have hBase := hStreams.base
  refine ⟨?_, ?_, ?_⟩
  · dsimp only
    omega
  · dsimp only
    rw [hOs, if_pos rfl, hLower, payloads_succ hBase,
      Event.written_append, hStreams.written,
      Event.written_write, hStreams.payload first hMember,
      hExpected]
  · intro p hErased
    exact hStreams.payload p
      ((OrderedSet.mem_eraseFirst_iff hFirst).mp hErased).1

/-
  Buffering a packet and sliding adds its number to the held
  ones and nothing else.
-/
theorem held_insertAndSlide
    {r : Receiver}
    {packet : Packet}
    (hSlidable :
      Slidable { r with
        recvBuffer := r.recvBuffer.insert packet }) :
    (∀ n, (r.insertAndSlide packet).Held n ↔
        r.Held n ∨ n = packet.seq) ∧
      r.window.1 ≤ (r.insertAndSlide packet).window.1 := by
  have hSlid :
      Sliding
        { r with recvBuffer := r.recvBuffer.insert packet }
        (r.insertAndSlide packet) :=
    insertAndSlide_invariant
      (fun _ _ => sliding_slideStep)
      ⟨hSlidable, fun _ => Iff.rfl, le_rfl⟩
  refine ⟨?_, hSlid.lower⟩
  intro n
  rw [hSlid.held n]
  unfold Held
  dsimp only
  constructor
  · intro hHeld
    rcases hHeld with hBelow | ⟨p, hMember, hNumber⟩
    · exact Or.inl (Or.inl hBelow)
    · rcases OrderedSet.mem_insert_iff.mp hMember with
        hOld | ⟨rfl, _⟩
      · exact Or.inl (Or.inr ⟨p, hOld, hNumber⟩)
      · exact Or.inr hNumber.symm
  · intro hHeld
    rcases hHeld with (hBelow | ⟨p, hOld, hNumber⟩) | rfl
    · exact Or.inl hBelow
    · exact Or.inr
        ⟨p, OrderedSet.mem_insert_of_mem hOld, hNumber⟩
    · exact Or.inr
        (OrderedSet.exists_mem_insert r.recvBuffer packet)

/- Buffering a packet and sliding keeps the output. -/
theorem streams_insertAndSlide
    {P : Nat → List UInt8}
    {c : Nat}
    {r : Receiver}
    {packet : Packet}
    (hSlidable :
      Slidable { r with
        recvBuffer := r.recvBuffer.insert packet })
    (hOs : r.osIsSet = true)
    (hStreams : r.Streams P c)
    (hPayload : packet.payload = P packet.seq) :
    (r.insertAndSlide packet).Streams P c := by
  have hSlid :
      (r.insertAndSlide packet).Slidable ∧
        (r.insertAndSlide packet).osIsSet = true ∧
        (r.insertAndSlide packet).Streams P c := by
    let Inv (current : Receiver) : Prop :=
      current.Slidable ∧ current.osIsSet = true ∧
        current.Streams P c
    have hStep :
        ∀ current next,
          Inv current →
          current.slideStep = some next →
          Inv next := by
      intro current next hCurrent hStep
      refine
        ⟨slidable_slideStep hCurrent.1 hStep, ?_,
          streams_slideStep hCurrent.1 hCurrent.2.1
            hCurrent.2.2 hStep⟩
      rcases slideStep_eq_some hStep with ⟨_, _, _, rfl⟩
      exact hCurrent.2.1
    have hStart :
        Inv { r with
          recvBuffer := r.recvBuffer.insert packet } := by
      refine
        ⟨hSlidable, hOs, hStreams.base,
          hStreams.written, ?_⟩
      intro p hMember
      rcases OrderedSet.mem_insert_iff.mp hMember with
        hOld | ⟨rfl, _⟩
      · exact hStreams.payload p hOld
      · exact hPayload
    exact insertAndSlide_invariant hStep hStart
  exact hSlid.2.2

end Receiver

end Nkurdt

------------------------------------------------------------
-- Delivery by an Iteration
------------------------------------------------------------

namespace Nkurdt

namespace Receiver

/- The window takes the number. -/
def InWindow (r : Receiver) (n : Nat) : Prop :=
  r.window.1 ≤ n ∧ n < r.window.2

instance (r : Receiver) (n : Nat) :
    Decidable (r.InWindow n) :=
  inferInstanceAs (Decidable (_ ∧ _))

/- Replying leaves the output alone. -/
theorem streams_reply
    {P : Nat → List UInt8}
    {c : Nat}
    {r : Receiver}
    (hStreams : r.Streams P c)
    (ackKind : PacketKind)
    (seq : Nat) :
    (r.reply ackKind seq).Streams P c := by
  rw [reply_eq]
  refine ⟨hStreams.base, ?_, hStreams.payload⟩
  simpa using hStreams.written

/- Nothing is written behind the slide loop. -/
@[simp] theorem written_acceptEvents
    (r : Receiver)
    (packet : Packet)
    (ackKind : PacketKind)
    (isDataStop : Bool) :
    Event.written
      (r.acceptEvents packet ackKind isDataStop) = [] := by
  unfold acceptEvents
  simp only [Event.written_append, written_replyEvents]
  split_ifs <;> rfl

theorem streams_accept
    {P : Nat → List UInt8}
    {c : Nat}
    {r : Receiver}
    {packet : Packet}
    {addr : SocketAddr}
    (ackKind : PacketKind)
    (hSlid :
      ((r.switchState packet addr).1.insertAndSlide
        packet).Streams P c) :
    (r.accept packet ackKind addr).Streams P c := by
  rw [accept_eq]
  refine ⟨hSlid.base, ?_, hSlid.payload⟩
  rw [← hSlid.written]
  simp

/- A packet outside the window changes neither bound. -/
theorem window_onPacket_of_outside
    {r : Receiver}
    {packet : Packet}
    (addr : SocketAddr)
    (hRequest : (getAckKind packet.kind).isSome)
    (hState : r.state ≠ .idle)
    (hOutside : ¬ r.InWindow packet.seq) :
    (r.onPacket packet addr).window = r.window ∧
      (r.onPacket packet addr).recvBuffer =
        r.recvBuffer := by
  rcases Option.isSome_iff_exists.mp hRequest with
    ⟨ackKind, hAck⟩
  rcases onPacket_cases addr hAck with
    ⟨_, _, hStep⟩ | ⟨_, _, _, hStep⟩ | ⟨hAccept, _⟩
  · rw [hStep, reply_eq]
    exact ⟨rfl, rfl⟩
  · rw [hStep]
    split_ifs
    · exact ⟨rfl, rfl⟩
    · rw [reply_eq]
      exact ⟨rfl, rfl⟩
  · exact absurd (hAccept.resolve_left hState) hOutside

/- A packet that the window takes is accepted. -/
theorem onPacket_of_inWindow
    {r : Receiver}
    {packet : Packet}
    {ackKind : PacketKind}
    (addr : SocketAddr)
    (hAck : getAckKind packet.kind = some ackKind)
    (hInside : r.InWindow packet.seq) :
    r.onPacket packet addr =
      r.accept packet ackKind addr := by
  rcases onPacket_cases addr hAck with
    ⟨hLow, _, _⟩ | ⟨_, hHigh, _, _⟩ | ⟨_, hStep⟩
  · exact absurd hInside.1 (not_le.mpr hLow)
  · exact absurd hInside.2 (not_lt.mpr hHigh)
  · exact hStep

/-
  In a connected session an iteration adds the number of a
  packet that the window takes to the held ones, and nothing
  else.
-/
theorem held_onPacket
    {r : Receiver}
    {packet : Packet}
    (addr : SocketAddr)
    (hRequest : (getAckKind packet.kind).isSome)
    (hRoomy : r.Roomy packet)
    (hState : r.state ≠ .idle)
    (hSettled : r.Settled) :
    (∀ n, (r.onPacket packet addr).Held n ↔
        r.Held n ∨ n = packet.seq ∧ r.InWindow n) ∧
      r.window.1 ≤ (r.onPacket packet addr).window.1 := by
  by_cases hInside : r.InWindow packet.seq
  · rcases Option.isSome_iff_exists.mp hRequest with
      ⟨ackKind, hAck⟩
    have hSame :=
      switchState_of_not_idle packet addr hState
    have hSlid :=
      held_insertAndSlide
        (slidable_switchState addr hRoomy hState hSettled
          hInside)
    rw [onPacket_of_inWindow addr hAck hInside, accept_eq]
    refine ⟨?_, ?_⟩
    · intro n
      have hHeld := hSlid.1 n
      unfold Held at hHeld ⊢
      dsimp only
      rw [hHeld, hSame.1, (switchState_frame r packet addr).1]
      constructor
      · intro hCase
        exact hCase.imp_right (fun hNumber =>
          ⟨hNumber, by rw [hNumber]; exact hInside⟩)
      · intro hCase
        exact hCase.imp_right And.left
    · have hLower := hSlid.2
      rw [hSame.1] at hLower
      exact hLower
  · have hSame :=
      window_onPacket_of_outside addr hRequest hState
        hInside
    refine ⟨?_, by rw [hSame.1]⟩
    intro n
    unfold Held
    rw [hSame.1, hSame.2]
    constructor
    · exact Or.inl
    · intro hCase
      rcases hCase with hHeld | ⟨rfl, hTaken⟩
      · exact hHeld
      · exact absurd hTaken hInside

/- In a connected session an iteration keeps the output. -/
theorem streams_onPacket
    {P : Nat → List UInt8}
    {c : Nat}
    {r : Receiver}
    {packet : Packet}
    (addr : SocketAddr)
    (hRequest : (getAckKind packet.kind).isSome)
    (hRoomy : r.Roomy packet)
    (hState : r.state ≠ .idle)
    (hSettled : r.Settled)
    (hOs : r.osIsSet = true)
    (hStreams : r.Streams P c)
    (hPayload : packet.payload = P packet.seq) :
    (r.onPacket packet addr).Streams P c := by
  rcases Option.isSome_iff_exists.mp hRequest with
    ⟨ackKind, hAck⟩
  rcases onPacket_cases addr hAck with
    ⟨_, _, hStep⟩ | ⟨_, _, _, hStep⟩ | ⟨hAccept, hStep⟩
  · rw [hStep]
    exact streams_reply hStreams ackKind _
  · rw [hStep]
    split_ifs
    · exact hStreams
    · exact streams_reply hStreams ackKind _
  · have hSame :=
      switchState_of_not_idle packet addr hState
    have hFrame := switchState_frame r packet addr
    rw [hStep]
    apply streams_accept
    apply streams_insertAndSlide
      (slidable_switchState addr hRoomy hState hSettled
        (hAccept.resolve_left hState))
      (hFrame.2.2.2.1.trans hOs) ?_ hPayload
    refine ⟨?_, ?_, ?_⟩
    · rw [hSame.1]
      exact hStreams.base
    · rw [hFrame.2.2.2.2.2.1, hSame.1]
      exact hStreams.written
    · rw [hFrame.1]
      exact hStreams.payload

/-
  The connection request finds an empty buffer; from there
  it is delivered alone.
-/
theorem delivers_onPacket_connReq
    {P : Nat → List UInt8}
    {r : Receiver}
    {packet : Packet}
    (addr : SocketAddr)
    (hSize : 1 ≤ r.maxWindowSize)
    (hKind : packet.kind = .connReq)
    (hRoomy : r.Roomy packet)
    (hState : r.state = .idle)
    (hEmpty : ∀ p, p ∉ r.recvBuffer)
    (hOs : r.osIsSet = true)
    (hWritten : Event.written r.trace = [])
    (hPayload : packet.payload = P packet.seq) :
    (r.onPacket packet addr).Streams P packet.seq ∧
      (∀ n, (r.onPacket packet addr).Held n ↔
        n ≤ packet.seq) := by
  have hFrame := switchState_frame r packet addr
  have hWindow :=
    window_switchState_connReq addr hKind hState
  have hNone :
      ∀ p, p ∉ (r.switchState packet addr).1.recvBuffer := by
    rw [hFrame.1]
    exact hEmpty
  have hSlidable :=
    slidable_connReq addr hSize hState hKind hRoomy
      (fun p hMember => absurd hMember (hEmpty p))
      (fun _ _ p hMember => absurd hMember (hEmpty p))
  have hHeld := (held_insertAndSlide hSlidable).1
  have hStreams :
      ((r.switchState packet addr).1.insertAndSlide
        packet).Streams P packet.seq := by
    apply streams_insertAndSlide hSlidable
      (hFrame.2.2.2.1.trans hOs) ?_ hPayload
    refine ⟨?_, ?_, ?_⟩
    · rw [hWindow]
    · rw [hFrame.2.2.2.2.2.1, hWindow]
      simpa using hWritten
    · exact fun p hMember => absurd hMember (hNone p)
  rw [onPacket_connReq addr hKind hState]
  refine ⟨streams_accept .connAck hStreams, ?_⟩
  intro n
  have hNumber := hHeld n
  rw [accept_eq]
  unfold Held at hNumber ⊢
  dsimp only
  rw [hNumber, hWindow]
  constructor
  · intro hCase
    rcases hCase with (hBelow | ⟨p, hMember, _⟩) | hSame
    · exact hBelow.le
    · exact absurd hMember (hNone p)
    · exact hSame.le
  · intro hLe
    rcases Nat.lt_or_eq_of_le hLe with hBelow | hSame
    · exact Or.inl (Or.inl hBelow)
    · exact Or.inr hSame

end Receiver

end Nkurdt

------------------------------------------------------------
-- Acknowledgements and Control State
------------------------------------------------------------

namespace Nkurdt

namespace Receiver

@[simp] theorem replies_acceptEvents
    (r : Receiver)
    (packet : Packet)
    (ackKind : PacketKind)
    (isDataStop : Bool) :
    Event.replies
        (r.acceptEvents packet ackKind isDataStop) =
      Event.replies
        (r.replyEvents ackKind (r.ackNumber packet)) := by
  unfold acceptEvents
  simp only [Event.replies_append]
  split_ifs <;> simp

/-
  An iteration sends at most one acknowledgement. It is of
  the kind of the packet. It carries the lower bound or, in
  selective repeat, the number of the packet, which is then
  held or was already delivered.
-/
theorem mem_replies_onPacket
    {r : Receiver}
    {packet ack : Packet}
    {addr : SocketAddr}
    {ackKind : PacketKind}
    (hAck : getAckKind packet.kind = some ackKind)
    (hMember :
      ack ∈ Event.replies (r.onPacket packet addr).trace) :
    ack ∈ Event.replies r.trace ∨
      ack =
        ⟨version, ackKind,
          (r.onPacket packet addr).ackNumber packet,
          []⟩ ∧
        (r.selectiveRepeat = true →
          packet.seq < r.window.1 ∨ r.state = .idle ∨
            r.InWindow packet.seq) := by
  rcases onPacket_cases addr hAck with
    ⟨hLow, _, hStep⟩ | ⟨_, _, _, hStep⟩ | ⟨hAccept, hStep⟩
  · rw [hStep, reply_eq] at hMember ⊢
    simp only [Event.replies_append,
      List.mem_append] at hMember
    refine hMember.imp_right ?_
    intro hNew
    exact ⟨(mem_replies_replyEvents hNew).2,
      fun _ => Or.inl hLow⟩
  · rw [hStep] at hMember ⊢
    split_ifs at hMember ⊢ with hMode
    · exact Or.inl hMember
    · rw [reply_eq] at hMember ⊢
      simp only [Event.replies_append,
        List.mem_append] at hMember
      refine hMember.imp_right ?_
      intro hNew
      refine ⟨?_, fun hSelective => absurd hSelective hMode⟩
      unfold ackNumber
      rw [if_neg hMode]
      exact (mem_replies_replyEvents hNew).2
  · rw [hStep, accept_eq] at hMember ⊢
    dsimp only at hMember ⊢
    rw [Event.replies_append, replies_insertAndSlide,
      (switchState_frame r packet addr).2.2.2.2.2.1,
      replies_acceptEvents, List.mem_append] at hMember
    refine hMember.imp_right ?_
    intro hNew
    exact ⟨(mem_replies_replyEvents hNew).2,
      fun _ => Or.inr hAccept⟩

/- The control state changes with an accepted packet only. -/
theorem state_onPacket
    {r : Receiver}
    {packet : Packet}
    (addr : SocketAddr)
    (hRequest : (getAckKind packet.kind).isSome)
    (hState : r.state ≠ .idle) :
    (r.onPacket packet addr).state =
      if r.InWindow packet.seq then
        (r.switchState packet addr).1.state
      else
        r.state := by
  rcases Option.isSome_iff_exists.mp hRequest with
    ⟨ackKind, hAck⟩
  rcases onPacket_cases addr hAck with
    ⟨hLow, _, hStep⟩ | ⟨_, hHigh, _, hStep⟩ |
      ⟨hAccept, hStep⟩
  · have hOut : ¬ r.InWindow packet.seq :=
      fun hInside => absurd hInside.1 (not_le.mpr hLow)
    rw [hStep, if_neg hOut, reply_eq]
  · have hOut : ¬ r.InWindow packet.seq :=
      fun hInside => absurd hInside.2 (not_lt.mpr hHigh)
    rw [hStep, if_neg hOut, reply_eq]
    split_ifs <;> rfl
  · have hInside : r.InWindow packet.seq :=
      hAccept.resolve_left hState
    rw [hStep, if_pos hInside, accept_eq]
    simp

/- The loop ends with the idle state, and only with it. -/
theorem status_onPacket
    {r : Receiver}
    {packet : Packet}
    (addr : SocketAddr)
    (hRequest : (getAckKind packet.kind).isSome)
    (hNext : (r.onPacket packet addr).state ≠ .idle) :
    (r.onPacket packet addr).status = r.status := by
  rcases Option.isSome_iff_exists.mp hRequest with
    ⟨ackKind, hAck⟩
  rcases onPacket_cases addr hAck with
    ⟨_, _, hStep⟩ | ⟨_, _, _, hStep⟩ | ⟨_, hStep⟩
  · rw [hStep, reply_eq]
  · rw [hStep]
    split_ifs
    · rfl
    · rw [reply_eq]
  · rw [hStep, accept_eq] at hNext ⊢
    simp only [state_insertAndSlide] at hNext
    simp [hNext, (switchState_frame r packet addr).2]

end Receiver

end Nkurdt

------------------------------------------------------------
-- Runs of a Connected Session
------------------------------------------------------------

namespace Nkurdt

namespace Receiver

/-
  The numbers of the packets that were accepted: received in
  the idle state or while the window took the number.
-/
def acceptedNumbers :
    Receiver → List (Packet × SocketAddr) → List Nat
| _, [] => []
| r, arrival :: arrivals =>
    (if r.state = .idle ∨ r.InWindow arrival.1.seq then
      [arrival.1.seq]
    else
      []) ++
      acceptedNumbers
        ((r.packetStep arrival).getD r) arrivals

/-
  What an acknowledgement promises: in go-back-n that every
  smaller number is delivered, in selective repeat that its
  own number is delivered or buffered.
-/
def SoundAck (r : Receiver) (ack : Packet) : Prop :=
  if r.selectiveRepeat then
    r.Held ack.seq
  else
    ack.seq ≤ r.window.1

/- What every iteration of a connected session keeps. -/
structure Delivering
    (w : Nat)
    (selectiveRepeat : Bool)
    (P : Nat → List UInt8)
    (c : Nat)
    (accepted : List Nat)
    (r : Receiver) : Prop where
  settled : r.Settled
  size : r.maxWindowSize = w
  mode : r.selectiveRepeat = selectiveRepeat
  osIsSet : r.osIsSet = true
  connected : r.state ≠ .idle
  looping : r.status = .looping ∧ r.running = true
  streams : r.Streams P c
  held : ∀ n, r.Held n ↔ n < c ∨ n ∈ accepted
  above : ∀ n ∈ accepted, c ≤ n
  acks : ∀ ack ∈ Event.replies r.trace, r.SoundAck ack

/- A promise is kept as long as nothing held is lost. -/
theorem SoundAck.mono
    {r next : Receiver}
    {ack : Packet}
    (hSound : r.SoundAck ack)
    (hMode : next.selectiveRepeat = r.selectiveRepeat)
    (hHeld : ∀ n, r.Held n → next.Held n)
    (hLower : r.window.1 ≤ next.window.1) :
    next.SoundAck ack := by
  unfold SoundAck at hSound ⊢
  rw [hMode]
  split_ifs at hSound ⊢
  · exact hHeld ack.seq hSound
  · exact hSound.trans hLower

/- The promise of the acknowledgement that was just sent. -/
theorem soundAck_ackNumber
    {next : Receiver}
    {packet : Packet}
    (ackKind : PacketKind)
    (hHeld :
      next.selectiveRepeat = true →
        next.Held packet.seq) :
    next.SoundAck
      ⟨version, ackKind, next.ackNumber packet, []⟩ := by
  unfold SoundAck ackNumber
  split_ifs with hMode
  · exact hHeld hMode
  · exact le_rfl

/- A packet that does not disconnect stays connected. -/
theorem switchState_ne_idle
    {r : Receiver}
    {packet : Packet}
    (addr : SocketAddr)
    (hState : r.state ≠ .idle)
    (hKind : packet.kind ≠ .disconnReq) :
    (r.switchState packet addr).1.state ≠ .idle := by
  unfold switchState
  cases hCase : r.state with
  | idle => exact absurd hCase hState
  | connected =>
      dsimp only
      split_ifs <;> simp [hCase]
  | receiving =>
      dsimp only
      split_ifs <;> simp [hCase]

/-
  In a connected session every promise is kept, the one of
  the last acknowledgement included.
-/
theorem soundAcks_onPacket
    {r : Receiver}
    {packet : Packet}
    (addr : SocketAddr)
    (hRequest : (getAckKind packet.kind).isSome)
    (hRoomy : r.Roomy packet)
    (hState : r.state ≠ .idle)
    (hSettled : r.Settled)
    (hSound :
      ∀ ack ∈ Event.replies r.trace, r.SoundAck ack) :
    ∀ ack ∈ Event.replies (r.onPacket packet addr).trace,
      (r.onPacket packet addr).SoundAck ack := by
  have hConfig := config_onPacket r packet addr
  have hNext :=
    held_onPacket addr hRequest hRoomy hState hSettled
  have hKeeps :
      ∀ n, r.Held n → (r.onPacket packet addr).Held n :=
    fun n hHeld => (hNext.1 n).mpr (Or.inl hHeld)
  rcases Option.isSome_iff_exists.mp hRequest with
    ⟨ackKind, hAck⟩
  intro ack hMember
  rcases mem_replies_onPacket hAck hMember with
    hOld | ⟨rfl, hTaken⟩
  · exact (hSound ack hOld).mono hConfig.2.1 hKeeps hNext.2
  · apply soundAck_ackNumber
    intro hMode
    rcases hTaken (hConfig.2.1 ▸ hMode) with
      hLow | hIdle | hInside
    · exact hKeeps packet.seq (Or.inl hLow)
    · exact absurd hIdle hState
    · exact (hNext.1 packet.seq).mpr (Or.inr ⟨rfl, hInside⟩)

theorem delivering_onPacket
    {w : Nat}
    {selectiveRepeat : Bool}
    {P : Nat → List UInt8}
    {c : Nat}
    {accepted : List Nat}
    {r : Receiver}
    {packet : Packet}
    (addr : SocketAddr)
    (hDelivering :
      Delivering w selectiveRepeat P c accepted r)
    (hRequest : (getAckKind packet.kind).isSome)
    (hKind : packet.kind ≠ .disconnReq)
    (hRoomy : packet.seq + w < 2 ^ 32)
    (hPayload : packet.payload = P packet.seq) :
    Delivering w selectiveRepeat P c
      (accepted ++
        if r.state = .idle ∨ r.InWindow packet.seq then
          [packet.seq]
        else
          [])
      (r.onPacket packet addr) := by
  have hState := hDelivering.connected
  have hRoom : r.Roomy packet := by
    unfold Roomy
    rw [hDelivering.size]
    exact hRoomy
  have hConfig := config_onPacket r packet addr
  have hNext :=
    held_onPacket addr hRequest hRoom hState
      hDelivering.settled
  have hConnected :
      (r.onPacket packet addr).state ≠ .idle := by
    rw [state_onPacket addr hRequest hState]
    split_ifs
    · exact switchState_ne_idle addr hState hKind
    · exact hState
  refine
    { settled := settled_onPacket addr hRequest hRoom hState
        hDelivering.settled
      size := hConfig.1.trans hDelivering.size
      mode := hConfig.2.1.trans hDelivering.mode
      osIsSet := hConfig.2.2.1.trans hDelivering.osIsSet
      connected := hConnected
      looping := ⟨?_, ?_⟩
      streams :=
        streams_onPacket addr hRequest hRoom hState
          hDelivering.settled hDelivering.osIsSet
          hDelivering.streams hPayload
      held := ?_
      above := ?_
      acks :=
        soundAcks_onPacket addr hRequest hRoom hState
          hDelivering.settled hDelivering.acks }
  · rw [status_onPacket addr hRequest hConnected]
    exact hDelivering.looping.1
  · rw [hConfig.2.2.2]
    exact hDelivering.looping.2
  · intro n
    rw [hNext.1 n, hDelivering.held n]
    simp only [hState, false_or, List.mem_append]
    constructor
    · intro hCase
      rcases hCase with (hBelow | hOld) | ⟨rfl, hInside⟩
      · exact Or.inl hBelow
      · exact Or.inr (Or.inl hOld)
      · exact Or.inr (Or.inr (by simp [hInside]))
    · intro hCase
      rcases hCase with hBelow | hOld | hNew
      · exact Or.inl (Or.inl hBelow)
      · exact Or.inl (Or.inr hOld)
      · split_ifs at hNew with hInside
        · have hNumber := List.mem_singleton.mp hNew
          exact Or.inr ⟨hNumber, hNumber ▸ hInside⟩
        · simp at hNew
  · intro n hMember
    simp only [hState, false_or, List.mem_append] at hMember
    rcases hMember with hOld | hNew
    · exact hDelivering.above n hOld
    · split_ifs at hNew with hInside
      · have hNumber := List.mem_singleton.mp hNew
        rw [hNumber]
        exact hDelivering.streams.base.trans hInside.1
      · simp at hNew

/- The session starts with its connection request. -/
theorem delivering_connReq
    {w : Nat}
    {selectiveRepeat : Bool}
    {P : Nat → List UInt8}
    {packet : Packet}
    (addr : SocketAddr)
    (hSize : 1 ≤ w)
    (hKind : packet.kind = .connReq)
    (hRoomy : packet.seq + w < 2 ^ 32)
    (hPayload : packet.payload = P packet.seq) :
    Delivering w selectiveRepeat P packet.seq [packet.seq]
      ((fresh w selectiveRepeat).onPacket packet addr) := by
  have hAck : getAckKind packet.kind = some .connAck := by
    rw [hKind]
    rfl
  have hRequest : (getAckKind packet.kind).isSome := by
    rw [hAck]
    rfl
  have hConfig :=
    config_onPacket (fresh w selectiveRepeat) packet addr
  have hNone :
      ∀ p, p ∉ (fresh w selectiveRepeat).recvBuffer :=
    OrderedSet.not_mem_empty
  have hFirst :=
    delivers_onPacket_connReq (P := P)
      (r := fresh w selectiveRepeat) addr hSize hKind
      hRoomy rfl hNone rfl rfl hPayload
  have hSettled :
      ((fresh w selectiveRepeat).onPacket
        packet addr).Settled :=
    settled_onPacket_connReq addr hSize rfl hKind hRoomy
      (fun p hMember => absurd hMember (hNone p))
      (fun _ _ p hMember => absurd hMember (hNone p))
  have hConnected :
      ((fresh w selectiveRepeat).onPacket
        packet addr).state ≠ .idle := by
    rw [onPacket_connReq addr hKind rfl, accept_eq]
    simp [switchState, fresh, start, hKind]
  refine
    { settled := hSettled
      size := hConfig.1
      mode := hConfig.2.1
      osIsSet := hConfig.2.2.1
      connected := hConnected
      looping := ⟨?_, hConfig.2.2.2⟩
      streams := hFirst.1
      held := ?_
      above := ?_
      acks := ?_ }
  · rw [status_onPacket addr hRequest hConnected]
    rfl
  · intro n
    rw [hFirst.2 n, List.mem_singleton]
    exact Nat.le_iff_lt_or_eq
  · intro n hMember
    exact (List.mem_singleton.mp hMember).ge
  · intro ack hMember
    rcases mem_replies_onPacket hAck hMember with
      hOld | ⟨rfl, _⟩
    · simp [fresh, start, make] at hOld
    · apply soundAck_ackNumber
      intro _
      exact (hFirst.2 packet.seq).mpr le_rfl

/- The run lemma: every list of requests keeps delivering. -/
theorem delivering_recvPackets
    {w : Nat}
    {selectiveRepeat : Bool}
    {P : Nat → List UInt8}
    {c : Nat}
    {accepted : List Nat}
    {r : Receiver}
    {arrivals : List (Packet × SocketAddr)}
    (hDelivering :
      Delivering w selectiveRepeat P c accepted r)
    (hRequests :
      ∀ arrival ∈ arrivals,
        (getAckKind arrival.1.kind).isSome ∧
          arrival.1.kind ≠ .disconnReq)
    (hTraffic :
      ∀ arrival ∈ arrivals,
        arrival.1.seq + w < 2 ^ 32 ∧
          arrival.1.payload = P arrival.1.seq) :
    Delivering w selectiveRepeat P c
      (accepted ++ r.acceptedNumbers arrivals)
      (r.recvPackets arrivals) := by
  induction arrivals generalizing r accepted with
  | nil =>
      simpa [acceptedNumbers, recvPackets] using hDelivering
  | cons arrival arrivals ih =>
      have hRequest := hRequests arrival List.mem_cons_self
      have hArrival := hTraffic arrival List.mem_cons_self
      have hStep :
          r.packetStep arrival =
            some (r.onPacket arrival.1 arrival.2) := by
        unfold packetStep
        rw [if_pos hDelivering.looping]
      have hNext :=
        delivering_onPacket arrival.2 hDelivering
          hRequest.1 hRequest.2 hArrival.1 hArrival.2
      have hRun :=
        ih hNext
          (fun a hMember =>
            hRequests a (List.mem_cons_of_mem _ hMember))
          (fun a hMember =>
            hTraffic a (List.mem_cons_of_mem _ hMember))
      rw [List.append_assoc] at hRun
      simpa [acceptedNumbers, recvPackets, hStep] using hRun

/-
  After a connection request numbered `c` and any requests
  but disconnections, the output is the payloads from `c` up
  to the lower bound. The lower bound is the least number
  from `c` on that was not accepted, the buffer holds the
  accepted numbers above it, and every acknowledgement that
  was sent keeps its promise.
-/
theorem delivered_recvPackets
    {w : Nat}
    {selectiveRepeat : Bool}
    {P : Nat → List UInt8}
    {c : Nat}
    {first : Packet × SocketAddr}
    {rest : List (Packet × SocketAddr)}
    (hSize : 1 ≤ w)
    (hFirst :
      first.1.kind = .connReq ∧ first.1.seq = c)
    (hRest :
      ∀ arrival ∈ rest,
        (getAckKind arrival.1.kind).isSome ∧
          arrival.1.kind ≠ .disconnReq)
    (hTraffic :
      ∀ arrival ∈ first :: rest,
        arrival.1.seq + w < 2 ^ 32 ∧
          arrival.1.payload = P arrival.1.seq) :
    let start := fresh w selectiveRepeat
    let r := start.recvPackets (first :: rest)
    let accepted := start.acceptedNumbers (first :: rest)
    Event.written r.trace = payloads P c r.window.1 ∧
      c ≤ r.window.1 ∧
      r.window.1 ∉ accepted ∧
      (∀ n, c ≤ n → n < r.window.1 → n ∈ accepted) ∧
      (∀ n, (∃ p ∈ r.recvBuffer, p.seq = n) ↔
        n ∈ accepted ∧ r.window.1 ≤ n) ∧
      ∀ ack ∈ Event.replies r.trace,
        if selectiveRepeat then
          ack.seq < c ∨
            (c ≤ ack.seq ∧ ack.seq < r.window.1) ∨
            ∃ p ∈ r.recvBuffer, p.seq = ack.seq
        else
          ack.seq ≤ r.window.1 := by
  intro start r accepted
  have hHead := hTraffic first List.mem_cons_self
  rw [← hFirst.2]
  have hRun :
      Delivering w selectiveRepeat P first.1.seq
        accepted r := by
    have hStart :
        Delivering w selectiveRepeat P first.1.seq
          [first.1.seq]
          ((fresh w selectiveRepeat).onPacket
            first.1 first.2) :=
      delivering_connReq first.2 hSize hFirst.1 hHead.1
        hHead.2
    exact delivering_recvPackets hStart hRest
      (fun arrival hMember =>
        hTraffic arrival (List.mem_cons_of_mem _ hMember))
  have hHeld := hRun.held
  have hBase := hRun.streams.base
  refine ⟨hRun.streams.written, hBase, ?_, ?_, ?_, ?_⟩
  · intro hAccepted
    exact hRun.settled.not_held_lower
      ((hHeld _).mpr (Or.inr hAccepted))
  · intro n hFrom hBelow
    rcases (hHeld n).mp (Or.inl hBelow) with
      hBefore | hAccepted
    · omega
    · exact hAccepted
  · intro n
    rw [hRun.settled.held_iff_of_le, hHeld n]
    constructor
    · intro hCase
      rcases hCase with ⟨hBefore | hAccepted, hAbove⟩
      · omega
      · exact ⟨hAccepted, hAbove⟩
    · intro hCase
      exact ⟨Or.inr hCase.1, hCase.2⟩
  · intro ack hMember
    have hSound := hRun.acks ack hMember
    unfold SoundAck Held at hSound
    rw [hRun.mode] at hSound
    split_ifs at hSound ⊢
    · rcases hSound with hDelivered | hBuffered
      · by_cases hBefore : ack.seq < first.1.seq
        · exact Or.inl hBefore
        · exact Or.inr (Or.inl ⟨by omega, hDelivered⟩)
      · exact Or.inr (Or.inr hBuffered)
    · exact hSound

/- A request that carries its number as payload. -/
def numbered
    (kind : PacketKind)
    (seq : Nat) : Packet × SocketAddr :=
  (⟨version, kind, seq, [UInt8.ofNat seq]⟩, ⟨0, 0⟩)

/- Two data packets that arrive in the wrong order. -/
theorem delivered_recvPackets_reordered :
    let r :=
      (fresh 3 true).recvPackets
        [numbered .connReq 0, numbered .data 2,
          numbered .data 1]
    r.window.1 = 3 ∧
      Event.written r.trace =
        payloads (fun n => [UInt8.ofNat n]) 0 r.window.1 := by
  have hRest :
      ∀ arrival ∈ [numbered .data 2, numbered .data 1],
        (getAckKind arrival.1.kind).isSome ∧
          arrival.1.kind ≠ .disconnReq := by
    decide
  have hTraffic :
      ∀ arrival ∈
          numbered .connReq 0 ::
            [numbered .data 2, numbered .data 1],
        arrival.1.seq + 3 < 2 ^ 32 ∧
          arrival.1.payload =
            (fun n => [UInt8.ofNat n]) arrival.1.seq := by
    decide
  refine ⟨by decide +kernel, ?_⟩
  exact (delivered_recvPackets (by decide)
    ⟨rfl, rfl⟩ hRest hTraffic).1

end Receiver

end Nkurdt
