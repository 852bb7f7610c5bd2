import Nkurdt.Receiver.Delivery

/-
  What the client gets to see.

  `Client.deliver` is what the client is meant to see of a
  packet that is delivered in order: its bytes, and with a
  `DataStop` the end of a file. An iteration of the loop
  shows the bytes that it delivers, and it ends a file only
  with a `DataStop` that arrives in the receiving state.

  Main declarations:
    * `Client.deliver`
    * `Client.ofPackets`
    * `Receiver.Completes`
    * `Receiver.Shows`
    * `Receiver.exists_shows`
-/

------------------------------------------------------------
-- Files of a Sequence of Packets
------------------------------------------------------------

namespace Nkurdt

namespace Client

/- The next packet in the order of the numbers. -/
def deliver
    (client : Client)
    (packet : Packet) : Client :=
  if packet.kind = .dataStop then
    (client.observe (.write packet.payload)).observe
      (.yield true)
  else
    client.observe (.write packet.payload)

/- The client after some packets in order. -/
def ofPackets (packets : List Packet) : Client :=
  packets.foldl deliver ⟨[], []⟩

@[simp] theorem ofPackets_nil :
    ofPackets [] = ⟨[], []⟩ :=
  rfl

@[simp] theorem ofPackets_append_singleton
    (packets : List Packet)
    (packet : Packet) :
    ofPackets (packets ++ [packet]) =
      (ofPackets packets).deliver packet := by
  simp [ofPackets]

/- A packet ends at most one file. -/
theorem files_deliver
    (client : Client)
    (packet : Packet) :
    (client.deliver packet).files =
      client.files ++
        if packet.kind = .dataStop then
          [client.unread ++ packet.payload]
        else
          [] := by
  unfold deliver
  split_ifs
  · rfl
  · exact (List.append_nil _).symm

/- Every `DataStop` ends one file. -/
theorem length_files_ofPackets
    (packets : List Packet) :
    (ofPackets packets).files.length =
      packets.countP fun packet =>
        decide (packet.kind = .dataStop) := by
  induction packets using List.reverseRecOn with
  | nil => rfl
  | append_singleton packets packet ih =>
      rw [ofPackets_append_singleton, files_deliver,
        List.length_append, ih, List.countP_append,
        List.countP_singleton]
      by_cases hStop : packet.kind = .dataStop
      · simp [hStop]
      · simp [hStop]

/- Packets that end no file show their payloads. -/
theorem ofPackets_append
    {packets more : List Packet}
    (hOpen : ∀ packet ∈ more, packet.kind ≠ .dataStop) :
    ofPackets (packets ++ more) =
      (ofPackets packets).observe
        (.write (more.flatMap Packet.payload)) := by
  induction more using List.reverseRecOn with
  | nil =>
      rw [List.append_nil]
      exact congrArg (Client.mk · _)
        (List.append_nil _).symm
  | append_singleton more packet ih =>
      have hLast :=
        hOpen packet (List.mem_append_right _
          (List.mem_singleton_self packet))
      have hOthers :
          ∀ other ∈ more, other.kind ≠ .dataStop :=
        fun other hMember =>
          hOpen other (List.mem_append_left _ hMember)
      rw [← List.append_assoc, ofPackets_append_singleton,
        ih hOthers, List.flatMap_append,
        List.flatMap_singleton]
      unfold deliver
      rw [if_neg hLast]
      simp [observe]

/- Files that are complete are not changed any more. -/
theorem files_prefix_ofPackets
    (packets more : List Packet) :
    (ofPackets packets).files <+:
      (ofPackets (packets ++ more)).files := by
  induction more using List.reverseRecOn with
  | nil =>
      rw [List.append_nil]
  | append_singleton more packet ih =>
      rw [← List.append_assoc, ofPackets_append_singleton,
        files_deliver]
      exact ih.trans (List.prefix_append _ _)

/- Actions that end no file. -/
theorem ofTrace_append
    {trace events : List Event}
    (hSilent : .yield true ∉ events) :
    ofTrace (trace ++ events) =
      (ofTrace trace).observe
        (.write (Event.written events)) := by
  induction events using List.reverseRecOn with
  | nil =>
      rw [List.append_nil]
      exact congrArg (Client.mk · _)
        (List.append_nil _).symm
  | append_singleton events event ih =>
      rw [List.mem_append, List.mem_singleton,
        not_or] at hSilent
      rw [← List.append_assoc, ofTrace_append_singleton,
        ih hSilent.1, Event.written_append]
      cases event with
      | write bytes =>
          simp [observe]
      | reply addr packet =>
          simp [observe]
      | yield value =>
          cases value with
          | true => exact absurd rfl hSilent.2
          | false => simp [observe]

/- Every `true` that is yielded ends one file. -/
theorem length_files_ofTrace
    (trace : List Event) :
    (ofTrace trace).files.length =
      trace.count (.yield true) := by
  induction trace using List.reverseRecOn with
  | nil => rfl
  | append_singleton trace event ih =>
      rw [ofTrace_append_singleton, List.count_append]
      cases event with
      | write bytes => simpa [observe] using ih
      | reply addr packet => simpa [observe] using ih
      | yield value =>
          cases value with
          | true => simpa [observe] using ih
          | false => simpa [observe] using ih

end Client

end Nkurdt

------------------------------------------------------------
-- Files of an Iteration
------------------------------------------------------------

namespace Nkurdt

namespace Receiver

/-
  The iteration is on a `DataStop` of the transfer that is
  being received, and it delivers it.
-/
def Completes
    (r : Receiver)
    (packet : Packet)
    (addr : SocketAddr) : Prop :=
  r.state = .receiving ∧ r.InWindow packet.seq ∧
    packet.kind = .dataStop ∧
    packet.seq < (r.onPacket packet addr).window.1

instance
    (r : Receiver)
    (packet : Packet)
    (addr : SocketAddr) :
    Decidable (r.Completes packet addr) :=
  inferInstanceAs (Decidable (_ ∧ _ ∧ _ ∧ _))

/- `is_data_stop` as the switch on `state_` returns it. -/
theorem isDataStop_switchState
    (r : Receiver)
    (packet : Packet)
    (addr : SocketAddr) :
    (r.switchState packet addr).2.2 = true ↔
      r.state = .receiving ∧ packet.kind = .dataStop := by
  unfold switchState
  cases r.state with
  | idle => dsimp only; split_ifs <;> simp
  | connected => dsimp only; split_ifs <;> simp
  | receiving =>
      dsimp only
      split_ifs with hData hStop
      · simp [hData]
      · simp [hStop]
      · simp [hStop]

/- The slide loop adds writes to the trace. -/
theorem trace_insertAndSlide
    (r : Receiver)
    (packet : Packet) :
    ∃ events,
      (r.insertAndSlide packet).trace = r.trace ++ events ∧
        .yield true ∉ events := by
  let Inv (current : Receiver) : Prop :=
    ∃ events, current.trace = r.trace ++ events ∧
      .yield true ∉ events
  have hStep :
      ∀ current next,
        Inv current →
        current.slideStep = some next →
        Inv next := by
    intro current next hCurrent hStep
    obtain ⟨events, hTrace, hSilent⟩ := hCurrent
    rcases slideStep_eq_some hStep with ⟨first, _, _, rfl⟩
    by_cases hOs : current.osIsSet = true
    · refine ⟨events ++ [.write first.payload], ?_, ?_⟩
      · dsimp only
        rw [if_pos hOs, hTrace, List.append_assoc]
      · simp [hSilent]
    · refine ⟨events, ?_, hSilent⟩
      dsimp only
      rw [if_neg hOs]
      exact hTrace
  have hStart :
      Inv { r with
        recvBuffer := r.recvBuffer.insert packet } :=
    ⟨[], (List.append_nil _).symm, List.not_mem_nil⟩
  exact insertAndSlide_invariant hStep hStart

/- When the end of the iteration yields `true`. -/
theorem completes_iff
    {r : Receiver}
    {packet : Packet}
    {ackKind : PacketKind}
    {addr : SocketAddr}
    (hAccept :
      r.state = .idle ∨
        r.window.1 ≤ packet.seq ∧ packet.seq < r.window.2)
    (hStep :
      r.onPacket packet addr =
        r.accept packet ackKind addr) :
    r.Completes packet addr ↔
      (r.switchState packet addr).2.2 = true ∧
        packet.seq <
          ((r.switchState packet addr).1.insertAndSlide
            packet).window.1 := by
  unfold Completes
  rw [isDataStop_switchState, hStep, accept_eq]
  constructor
  · intro hCompletes
    obtain ⟨hState, _, hKind, hDelivered⟩ := hCompletes
    exact ⟨⟨hState, hKind⟩, hDelivered⟩
  · intro hStop
    obtain ⟨⟨hState, hKind⟩, hDelivered⟩ := hStop
    refine ⟨hState, hAccept.resolve_left ?_, hKind,
      hDelivered⟩
    rw [hState]
    exact fun hIdle => by cases hIdle

/-
  What the client sees of an iteration: the bytes that are
  written and, behind them, the end of a completed transfer.
-/
def Shows
    (r : Receiver)
    (packet : Packet)
    (addr : SocketAddr)
    (bytes : List UInt8) : Prop :=
  Event.written (r.onPacket packet addr).trace =
      Event.written r.trace ++ bytes ∧
    Client.ofTrace (r.onPacket packet addr).trace =
      if r.Completes packet addr then
        ((Client.ofTrace r.trace).observe
          (.write bytes)).observe (.yield true)
      else
        (Client.ofTrace r.trace).observe (.write bytes)

/- An iteration that ends no file. -/
theorem shows_of_silent
    {r : Receiver}
    {packet : Packet}
    {addr : SocketAddr}
    {events : List Event}
    (hNot : ¬ r.Completes packet addr)
    (hTrace :
      (r.onPacket packet addr).trace = r.trace ++ events)
    (hSilent : .yield true ∉ events) :
    r.Shows packet addr (Event.written events) := by
  refine ⟨?_, ?_⟩
  · rw [hTrace, Event.written_append]
  · rw [if_neg hNot, hTrace, Client.ofTrace_append hSilent]

theorem exists_shows
    {r : Receiver}
    {packet : Packet}
    (addr : SocketAddr)
    (hRequest : (getAckKind packet.kind).isSome) :
    ∃ bytes, r.Shows packet addr bytes := by
  rcases Option.isSome_iff_exists.mp hRequest with
    ⟨ackKind, hAck⟩
  have hReply :
      ∀ seq,
        .yield true ∉ r.replyEvents ackKind seq :=
    fun seq => yield_not_mem_replyEvents r ackKind seq true
  rcases onPacket_cases addr hAck with
    ⟨hLow, _, hStep⟩ | ⟨_, hHigh, _, hStep⟩ |
      ⟨hAccept, hStep⟩
  · have hNot : ¬ r.Completes packet addr :=
      fun hNow => absurd hNow.2.1.1 (not_le.mpr hLow)
    refine ⟨_, shows_of_silent hNot ?_
      (hReply (r.ackNumber packet))⟩
    rw [hStep, reply_eq]
  · have hNot : ¬ r.Completes packet addr :=
      fun hNow => absurd hNow.2.1.2 (not_lt.mpr hHigh)
    by_cases hMode : r.selectiveRepeat = true
    · refine ⟨_, @shows_of_silent _ _ _ [] hNot ?_
        List.not_mem_nil⟩
      rw [hStep, if_pos hMode, List.append_nil]
    · refine ⟨_, shows_of_silent hNot ?_
        (hReply r.window.1)⟩
      rw [hStep, if_neg hMode, reply_eq]
  have hFrame := switchState_frame r packet addr
  have hCompletes := completes_iff hAccept hStep
  rcases trace_insertAndSlide
      (r.switchState packet addr).1 packet with
    ⟨events, hTrace, hSilent⟩
  rw [hFrame.2.2.2.2.2.1] at hTrace
  have hEvents :=
    yield_not_mem_replyEvents
      ((r.switchState packet addr).1.insertAndSlide packet)
      ackKind
      (((r.switchState packet addr).1.insertAndSlide
        packet).ackNumber packet) true
  by_cases hNow : r.Completes packet addr
  · refine ⟨Event.written events, ?_, ?_⟩
    · rw [hStep, accept_eq]
      simp [hTrace]
    · rw [if_pos hNow, hStep, accept_eq]
      unfold acceptEvents
      dsimp only
      rw [if_pos (hCompletes.mp hNow), hTrace,
        ← List.append_assoc, ← List.append_assoc,
        Client.ofTrace_append (by split_ifs <;> simp),
        Client.ofTrace_append_singleton,
        Client.ofTrace_append hEvents,
        Client.ofTrace_append hSilent]
      split_ifs <;> simp [Client.observe]
  · have hNext :
        (r.onPacket packet addr).trace =
          r.trace ++
            (events ++
              ((r.switchState packet addr).1.insertAndSlide
                packet).acceptEvents packet ackKind
                  (r.switchState packet addr).2.2) := by
      rw [hStep, accept_eq]
      dsimp only
      rw [hTrace, List.append_assoc]
    refine ⟨_, shows_of_silent hNow hNext ?_⟩
    unfold acceptEvents
    rw [if_neg (fun hStop => hNow (hCompletes.mpr hStop))]
    simp only [List.mem_append, not_or]
    refine ⟨hSilent, ⟨hEvents, List.not_mem_nil⟩, ?_⟩
    split_ifs <;> simp

end Receiver

end Nkurdt
