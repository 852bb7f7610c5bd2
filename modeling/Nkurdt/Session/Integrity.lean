import Nkurdt.Session.Delivery

/-
  Delivery when the acknowledgements cannot be trusted.

  The socket of the sender may return anything: forged,
  corrupted or stale acknowledgements, and fatal errors. The
  socket of the receiver returns datagrams of the sender, in
  any order and any number of times, what the decoder turns
  away, and errors. The two sides may even run in different
  modes. The receiver can miss packets at the end, but what
  it writes is always what the sender has built.

  Main declarations:
    * `Receiver.delivered`
    * `Receiver.Faithful`
    * `Receiver.Genuine`
    * `Receiver.genuine_onPacket`
    * `Session.Exposed`
    * `Session.written_genuine`
-/

------------------------------------------------------------
-- Parts of the Built Packets
------------------------------------------------------------

namespace Nkurdt

namespace Receiver

/-
  The packets below `k`, and the ones from `c` up to `n`.
-/
def delivered
    (packets : List Packet)
    (k c n : Nat) : List Packet :=
  packets.take k ++ (packets.take n).drop c

@[simp] theorem delivered_self
    (packets : List Packet)
    (k c : Nat) :
    delivered packets k c c = packets.take k := by
  simp [delivered]

@[simp] theorem delivered_zero
    (packets : List Packet)
    (n : Nat) :
    delivered packets 0 0 n = packets.take n := by
  simp [delivered]

/- The packet numbered `n` comes next. -/
theorem delivered_succ
    {packets : List Packet}
    {p : Packet}
    {k c n : Nat}
    (hLe : c ≤ n)
    (hNext : packets[n]? = some p) :
    delivered packets k c (n + 1) =
      delivered packets k c n ++ [p] := by
  have hLess : n < packets.length :=
    (List.getElem?_eq_some_iff.mp hNext).1
  have hTake : c ≤ (packets.take n).length := by
    rw [List.length_take]
    omega
  unfold delivered
  rw [List.take_add_one, hNext, Option.toList_some,
    List.drop_append_of_le_length hTake, List.append_assoc]

/- More packets may be built. -/
theorem delivered_append
    {packets : List Packet}
    {k n : Nat}
    (more : List Packet)
    (c : Nat)
    (hFirst : k ≤ packets.length)
    (hSecond : n ≤ packets.length) :
    delivered (packets ++ more) k c n =
      delivered packets k c n := by
  unfold delivered
  rw [List.take_append_of_le_length hFirst,
    List.take_append_of_le_length hSecond]

/- No packet is delivered twice or before an earlier one. -/
theorem delivered_sublist
    {packets : List Packet}
    {k c n : Nat}
    (hLe : k ≤ c) :
    (delivered packets k c n).Sublist packets := by
  have hLow : (packets.take k).Sublist (packets.take c) :=
    (List.take_prefix_take_left hLe).sublist
  have hHigh :
      ((packets.take n).drop c).Sublist (packets.drop c) :=
    (List.take_sublist n packets).drop c
  have hBoth := hLow.append hHigh
  rw [List.take_append_drop] at hBoth
  exact hBoth

/- Without a part in front, it is one contiguous run. -/
theorem delivered_infix
    (packets : List Packet)
    (c n : Nat) :
    delivered packets 0 c n <:+: packets := by
  unfold delivered
  rw [List.take_zero, List.nil_append]
  exact (List.drop_suffix c _).isInfix.trans
    (List.take_prefix n packets).isInfix

end Receiver

end Nkurdt

------------------------------------------------------------
-- Receivers of Built Packets
------------------------------------------------------------

namespace Nkurdt

namespace Receiver

/-
  The buffer holds packets that were built, and the output
  is the payloads of the delivered ones.
-/
structure Faithful
    (packets : List Packet)
    (k c : Nat)
    (r : Receiver) : Prop where
  osIsSet : r.osIsSet = true
  buffered :
    ∀ p ∈ r.recvBuffer, packets[p.seq]? = some p
  base : c ≤ r.window.1
  lower_le : r.window.1 ≤ packets.length
  written :
    Event.written r.trace =
      (delivered packets k c r.window.1).flatMap
        Packet.payload

/- None of the first packets is a connection request. -/
def Unopened (packets : List Packet) (n : Nat) : Prop :=
  ∀ p ∈ packets.take n, p.kind ≠ .connReq

/-
  Before the connection request the receiver has delivered
  the first packets, none of which is one. After it there
  are at most two runs of packets, the second from the
  connection request on.
-/
structure Genuine
    (packets : List Packet)
    (r : Receiver) : Prop where
  output :
    ∃ k c, k ≤ c ∧ k ≤ packets.length ∧
      Unopened packets k ∧ Faithful packets k c r
  waiting :
    r.state = .idle →
    r.status = .looping →
      Faithful packets 0 0 r ∧
        Unopened packets r.window.1 ∧
        ∀ p ∈ r.recvBuffer, p.kind ≠ .connReq

theorem faithful_fresh
    (w : Nat)
    (selectiveRepeat : Bool) :
    Faithful [] 0 0 (fresh w selectiveRepeat) where
  osIsSet := rfl
  buffered := fun p hMember =>
    absurd hMember (OrderedSet.not_mem_empty p)
  base := Nat.le_refl 0
  lower_le := Nat.le_refl 0
  written := rfl

theorem genuine_fresh
    (w : Nat)
    (selectiveRepeat : Bool) :
    Genuine [] (fresh w selectiveRepeat) := by
  have hFaithful := faithful_fresh w selectiveRepeat
  have hUnopened : Unopened [] 0 :=
    fun _ hMember => by cases hMember
  refine
    ⟨⟨0, 0, le_rfl, le_rfl, hUnopened, hFaithful⟩, ?_⟩
  intro _ _
  exact ⟨hFaithful, hUnopened, fun p hMember =>
    absurd hMember (OrderedSet.not_mem_empty p)⟩

/- Only the listed parts of the receiver matter. -/
theorem Faithful.congr
    {packets : List Packet}
    {k c : Nat}
    {r next : Receiver}
    (hFaithful : Faithful packets k c r)
    (hOs : next.osIsSet = r.osIsSet)
    (hBuffer : next.recvBuffer = r.recvBuffer)
    (hLower : next.window.1 = r.window.1)
    (hWritten :
      Event.written next.trace = Event.written r.trace) :
    Faithful packets k c next where
  osIsSet := hOs.trans hFaithful.osIsSet
  buffered := by
    rw [hBuffer]
    exact hFaithful.buffered
  base := by
    rw [hLower]
    exact hFaithful.base
  lower_le := by
    rw [hLower]
    exact hFaithful.lower_le
  written := by
    rw [hWritten, hLower]
    exact hFaithful.written

/- More packets may be built. -/
theorem Faithful.append
    {packets : List Packet}
    {k c : Nat}
    {r : Receiver}
    (hFaithful : Faithful packets k c r)
    (hFirst : k ≤ packets.length)
    (more : List Packet) :
    Faithful (packets ++ more) k c r where
  osIsSet := hFaithful.osIsSet
  buffered := by
    intro p hMember
    have hOld := hFaithful.buffered p hMember
    rw [List.getElem?_append_left
      (List.getElem?_eq_some_iff.mp hOld).1]
    exact hOld
  base := hFaithful.base
  lower_le := by
    rw [List.length_append]
    exact hFaithful.lower_le.trans (Nat.le_add_right _ _)
  written := by
    rw [hFaithful.written,
      delivered_append more c hFirst hFaithful.lower_le]

theorem Unopened.append
    {packets : List Packet}
    {n : Nat}
    (hUnopened : Unopened packets n)
    (hLe : n ≤ packets.length)
    (more : List Packet) :
    Unopened (packets ++ more) n := by
  unfold Unopened
  rw [List.take_append_of_le_length hLe]
  exact hUnopened

theorem Genuine.append
    {packets : List Packet}
    {r : Receiver}
    (hGenuine : Genuine packets r)
    (more : List Packet) :
    Genuine (packets ++ more) r := by
  refine ⟨?_, ?_⟩
  · rcases hGenuine.output with
      ⟨k, c, hLe, hFirst, hUnopened, hFaithful⟩
    refine ⟨k, c, hLe, ?_, hUnopened.append hFirst more,
      hFaithful.append hFirst more⟩
    rw [List.length_append]
    exact hFirst.trans (Nat.le_add_right _ _)
  · intro hState hStatus
    obtain ⟨hFaithful, hUnopened, hBuffer⟩ :=
      hGenuine.waiting hState hStatus
    exact ⟨hFaithful.append (Nat.zero_le _) more,
      hUnopened.append hFaithful.lower_le more, hBuffer⟩

end Receiver

end Nkurdt

------------------------------------------------------------
-- Iterations on Built Packets
------------------------------------------------------------

namespace Nkurdt

namespace Receiver

/- A round delivers the packet at the lower bound. -/
theorem faithful_slideStep
    {packets : List Packet}
    {k c : Nat}
    {r next : Receiver}
    (hBounded : packets.length < 2 ^ 32)
    (hFaithful : Faithful packets k c r)
    (hStep : r.slideStep = some next) :
    Faithful packets k c next := by
  have hBase := hFaithful.base
  rcases slideStep_eq_some hStep with
    ⟨first, hFirst, hExpected, rfl⟩
  have hMember := (OrderedSet.first?_eq_some hFirst).1
  have hBuilt := hFaithful.buffered first hMember
  rw [hExpected] at hBuilt
  have hLess : r.window.1 < packets.length :=
    (List.getElem?_eq_some_iff.mp hBuilt).1
  have hLower :
      SequenceNumber.update r.window.1 = r.window.1 + 1 :=
    SequenceNumber.update_of_lt (by omega)
  refine ⟨hFaithful.osIsSet, ?_, ?_, ?_, ?_⟩
  · intro p hErased
    exact hFaithful.buffered p
      ((OrderedSet.mem_eraseFirst_iff hFirst).mp hErased).1
  · dsimp only
    omega
  · dsimp only
    omega
  · dsimp only
    rw [hFaithful.osIsSet, if_pos rfl, hLower,
      delivered_succ hBase hBuilt, List.flatMap_append,
      List.flatMap_singleton, Event.written_append,
      hFaithful.written, Event.written_write]

/- What the slide loop keeps before the connection. -/
theorem unopened_slideStep
    {packets : List Packet}
    {r next : Receiver}
    (hBounded : packets.length < 2 ^ 32)
    (hFaithful : Faithful packets 0 0 r)
    (hUnopened : Unopened packets r.window.1)
    (hBuffer : ∀ p ∈ r.recvBuffer, p.kind ≠ .connReq)
    (hStep : r.slideStep = some next) :
    Unopened packets next.window.1 ∧
      ∀ p ∈ next.recvBuffer, p.kind ≠ .connReq := by
  rcases slideStep_eq_some hStep with
    ⟨first, hFirst, hExpected, rfl⟩
  have hMember := (OrderedSet.first?_eq_some hFirst).1
  have hBuilt := hFaithful.buffered first hMember
  rw [hExpected] at hBuilt
  have hLess : r.window.1 < packets.length :=
    (List.getElem?_eq_some_iff.mp hBuilt).1
  have hLower :
      SequenceNumber.update r.window.1 = r.window.1 + 1 :=
    SequenceNumber.update_of_lt (by omega)
  refine ⟨?_, ?_⟩
  · intro p hTaken
    dsimp only at hTaken
    rw [hLower, List.take_add_one, hBuilt,
      Option.toList_some, List.mem_append] at hTaken
    rcases hTaken with hOld | hNew
    · exact hUnopened p hOld
    · rw [List.mem_singleton.mp hNew]
      exact hBuffer first hMember
  · intro p hErased
    exact hBuffer p
      ((OrderedSet.mem_eraseFirst_iff hFirst).mp hErased).1

/- Buffering a built packet. -/
theorem Faithful.insert
    {packets : List Packet}
    {k c : Nat}
    {r : Receiver}
    {packet : Packet}
    (hFaithful : Faithful packets k c r)
    (hBuilt : packets[packet.seq]? = some packet) :
    Faithful packets k c
      { r with
        recvBuffer := r.recvBuffer.insert packet } := by
  refine ⟨hFaithful.osIsSet, ?_, hFaithful.base,
    hFaithful.lower_le, hFaithful.written⟩
  intro p hMember
  rcases OrderedSet.mem_insert_iff.mp hMember with
    hOld | ⟨rfl, _⟩
  · exact hFaithful.buffered p hOld
  · exact hBuilt

theorem faithful_insertAndSlide
    {packets : List Packet}
    {k c : Nat}
    {r : Receiver}
    {packet : Packet}
    (hBounded : packets.length < 2 ^ 32)
    (hFaithful : Faithful packets k c r)
    (hBuilt : packets[packet.seq]? = some packet) :
    Faithful packets k c (r.insertAndSlide packet) :=
  insertAndSlide_invariant
    (fun _ _ hCurrent hStep =>
      faithful_slideStep hBounded hCurrent hStep)
    (hFaithful.insert hBuilt)

theorem unopened_insertAndSlide
    {packets : List Packet}
    {r : Receiver}
    {packet : Packet}
    (hBounded : packets.length < 2 ^ 32)
    (hFaithful : Faithful packets 0 0 r)
    (hUnopened : Unopened packets r.window.1)
    (hBuffer : ∀ p ∈ r.recvBuffer, p.kind ≠ .connReq)
    (hBuilt : packets[packet.seq]? = some packet)
    (hKind : packet.kind ≠ .connReq) :
    Unopened packets (r.insertAndSlide packet).window.1 ∧
      ∀ p ∈ (r.insertAndSlide packet).recvBuffer,
        p.kind ≠ .connReq := by
  let Inv (current : Receiver) : Prop :=
    Faithful packets 0 0 current ∧
      Unopened packets current.window.1 ∧
      ∀ p ∈ current.recvBuffer, p.kind ≠ .connReq
  have hStep :
      ∀ current next,
        Inv current →
        current.slideStep = some next →
        Inv next :=
    fun current next hCurrent hNext =>
      ⟨faithful_slideStep hBounded hCurrent.1 hNext,
        unopened_slideStep hBounded hCurrent.1 hCurrent.2.1
          hCurrent.2.2 hNext⟩
  have hStart :
      Inv { r with
        recvBuffer := r.recvBuffer.insert packet } := by
    refine ⟨hFaithful.insert hBuilt, hUnopened, ?_⟩
    intro p hMember
    rcases OrderedSet.mem_insert_iff.mp hMember with
      hOld | ⟨rfl, _⟩
    · exact hBuffer p hOld
    · exact hKind
  have hEnd : Inv (r.insertAndSlide packet) :=
    insertAndSlide_invariant hStep hStart
  exact hEnd.2

/- The rest of an iteration writes nothing. -/
theorem faithful_accept
    {packets : List Packet}
    {k c : Nat}
    {r : Receiver}
    {packet : Packet}
    {addr : SocketAddr}
    (ackKind : PacketKind)
    (hBounded : packets.length < 2 ^ 32)
    (hSwitched :
      Faithful packets k c (r.switchState packet addr).1)
    (hBuilt : packets[packet.seq]? = some packet) :
    Faithful packets k c (r.accept packet ackKind addr) := by
  apply (faithful_insertAndSlide hBounded hSwitched
    hBuilt).congr
  all_goals
    rw [accept_eq]
  · simp

/- A reply writes nothing. -/
theorem genuine_reply
    {packets : List Packet}
    {r : Receiver}
    (hGenuine : Genuine packets r)
    (ackKind : PacketKind)
    (seq : Nat) :
    Genuine packets (r.reply ackKind seq) := by
  have hSame :
      ∀ k c, Faithful packets k c r →
        Faithful packets k c (r.reply ackKind seq) := by
    intro k c hFaithful
    rw [reply_eq]
    exact hFaithful.congr rfl rfl rfl (by simp)
  refine ⟨?_, ?_⟩
  · rcases hGenuine.output with
      ⟨k, c, hLe, hFirst, hUnopened, hFaithful⟩
    exact ⟨k, c, hLe, hFirst, hUnopened,
      hSame k c hFaithful⟩
  · intro hState hStatus
    rw [reply_eq] at hState hStatus
    obtain ⟨hFaithful, hUnopened, hBuffer⟩ :=
      hGenuine.waiting hState hStatus
    refine ⟨hSame 0 0 hFaithful, ?_, ?_⟩
    · rw [reply_eq]
      exact hUnopened
    · rw [reply_eq]
      exact hBuffer

/- The connection request starts the second run. -/
theorem faithful_connReq
    {packets : List Packet}
    {r : Receiver}
    {packet : Packet}
    (addr : SocketAddr)
    (hFaithful : Faithful packets 0 0 r)
    (hUnopened : Unopened packets r.window.1)
    (hBuilt : packets[packet.seq]? = some packet)
    (hKind : packet.kind = .connReq)
    (hState : r.state = .idle) :
    r.window.1 ≤ packet.seq ∧
      Faithful packets r.window.1 packet.seq
        (r.switchState packet addr).1 := by
  have hFrame := switchState_frame r packet addr
  have hWindow :=
    window_switchState_connReq addr hKind hState
  have hLess : packet.seq < packets.length :=
    (List.getElem?_eq_some_iff.mp hBuilt).1
  have hAbove : r.window.1 ≤ packet.seq := by
    by_contra hBelow
    have hTaken : packet ∈ packets.take r.window.1 := by
      apply List.mem_of_getElem? (i := packet.seq)
      rw [List.getElem?_take_of_lt (not_le.mp hBelow)]
      exact hBuilt
    exact hUnopened packet hTaken hKind
  refine ⟨hAbove, hFrame.2.2.2.1.trans hFaithful.osIsSet,
    ?_, ?_, ?_, ?_⟩
  · rw [hFrame.1]
    exact hFaithful.buffered
  · rw [hWindow]
  · rw [hWindow]
    exact hLess.le
  · rw [hFrame.2.2.2.2.2.1, hWindow, hFaithful.written,
      delivered_zero, delivered_self]

/-
  Before the connection any other request only fills the
  buffer.
-/
theorem switchState_of_unopened
    {r : Receiver}
    {packet : Packet}
    (addr : SocketAddr)
    (hState : r.state = .idle)
    (hKind : packet.kind ≠ .connReq) :
    (r.switchState packet addr).1 = r := by
  unfold switchState
  rw [hState]
  dsimp only
  rw [if_neg hKind]

theorem genuine_accept
    {packets : List Packet}
    {r : Receiver}
    {packet : Packet}
    {ackKind : PacketKind}
    (addr : SocketAddr)
    (hBounded : packets.length < 2 ^ 32)
    (hGenuine : Genuine packets r)
    (hLooping : r.status = .looping)
    (hBuilt : packets[packet.seq]? = some packet)
    (hKind : packet.kind ≠ .disconnReq) :
    Genuine packets (r.accept packet ackKind addr) := by
  have hNext :
      (r.accept packet ackKind addr).state =
        (r.switchState packet addr).1.state := by
    rw [accept_eq]
    simp
  by_cases hState : r.state = .idle
  · obtain ⟨hFaithful, hUnopened, hBuffer⟩ :=
      hGenuine.waiting hState hLooping
    by_cases hConn : packet.kind = .connReq
    · obtain ⟨hAbove, hSwitched⟩ :=
        faithful_connReq addr hFaithful hUnopened hBuilt
          hConn hState
      refine ⟨⟨r.window.1, packet.seq, hAbove,
        hFaithful.lower_le, hUnopened,
        faithful_accept ackKind hBounded hSwitched
          hBuilt⟩, ?_⟩
      intro hIdle
      rw [hNext] at hIdle
      simp [switchState, hState, hConn] at hIdle
    · have hSwitched :=
        switchState_of_unopened addr hState hConn
      have hAfter :
          Faithful packets 0 0
            (r.accept packet ackKind addr) := by
        apply faithful_accept ackKind hBounded ?_ hBuilt
        rw [hSwitched]
        exact hFaithful
      have hStill :=
        unopened_insertAndSlide hBounded hFaithful
          hUnopened hBuffer hBuilt hConn
      refine ⟨⟨0, 0, le_rfl, Nat.zero_le _, ?_, hAfter⟩,
        ?_⟩
      · exact fun _ hMember => by cases hMember
      · intro _ _
        refine ⟨hAfter, ?_, ?_⟩
        · rw [accept_eq, hSwitched]
          exact hStill.1
        · rw [accept_eq, hSwitched]
          exact hStill.2
  · have hSame := switchState_of_not_idle packet addr hState
    have hFrame := switchState_frame r packet addr
    refine ⟨?_, ?_⟩
    · rcases hGenuine.output with
        ⟨k, c, hLe, hFirst, hUnopened, hFaithful⟩
      refine ⟨k, c, hLe, hFirst, hUnopened, ?_⟩
      apply faithful_accept ackKind hBounded ?_ hBuilt
      apply hFaithful.congr hFrame.2.2.2.1 hFrame.1
      · rw [hSame.1]
      · rw [hFrame.2.2.2.2.2.1]
    · intro hIdle
      rw [hNext] at hIdle
      exact absurd hIdle
        (switchState_ne_idle addr hState hKind)

/- Every iteration on a built packet stays genuine. -/
theorem genuine_onPacket
    {packets : List Packet}
    {r : Receiver}
    {packet : Packet}
    (addr : SocketAddr)
    (hBounded : packets.length < 2 ^ 32)
    (hGenuine : Genuine packets r)
    (hLooping : r.status = .looping)
    (hBuilt : packets[packet.seq]? = some packet)
    (hRequest : (getAckKind packet.kind).isSome)
    (hKind : packet.kind ≠ .disconnReq) :
    Genuine packets (r.onPacket packet addr) := by
  rcases Option.isSome_iff_exists.mp hRequest with
    ⟨ackKind, hAck⟩
  rcases onPacket_cases addr hAck with
    ⟨_, _, hStep⟩ | ⟨_, _, _, hStep⟩ | ⟨_, hStep⟩
  · rw [hStep]
    exact genuine_reply hGenuine ackKind _
  · rw [hStep]
    split_ifs
    · exact hGenuine
    · exact genuine_reply hGenuine ackKind _
  · rw [hStep]
    exact genuine_accept addr hBounded hGenuine hLooping
      hBuilt hKind

end Receiver

end Nkurdt

------------------------------------------------------------
-- Sessions With an Untrusted Return Path
------------------------------------------------------------

namespace Nkurdt

namespace Session

open Sender
open Runs

/-
  What the socket of the receiver returns: a datagram that
  was sent, one that the decoder turns away, or an error.
-/
def Authentic (sent : List Packet) : RecvResult → Prop
| .error _ => True
| .datagram bytes _ =>
    (∃ packet ∈ sent, bytes = packet.toBytes) ∨
      Packet.fromBytes bytes = some none

instance (sent : List Packet) (result : RecvResult) :
    Decidable (Authentic sent result) := by
  rcases result with ⟨⟩ | ⟨⟩
  all_goals
    unfold Authentic
    infer_instance

/- The receiver hears nothing that the sender has not sent. -/
def Hears (x : Session) : Action → Prop
| .receive result => Authentic x.requests result
| .sender _ => True

instance (x : Session) (action : Action) :
    Decidable (x.Hears action) := by
  unfold Hears
  cases action
  all_goals infer_instance

/-
  A step in which the socket of the sender can return
  anything, before any disconnection.
-/
structure Exposed
    (x : Session)
    (action : Action)
    (x' : Session) : Prop where
  hears : x.Hears action
  stays : ¬ Disconnects action
  wrap : NoWrap x.sender x'.sender

instance (x : Session) (action : Action) (x' : Session) :
    Decidable (Exposed x action x') :=
  decidable_of_iff
    (x.Hears action ∧ ¬ Disconnects action ∧
      NoWrap x.sender x'.sender)
    ⟨fun hAll => ⟨hAll.1, hAll.2.1, hAll.2.2⟩,
      fun hStep => ⟨hStep.hears, hStep.stays, hStep.wrap⟩⟩

structure Intact (x : Session) : Prop where
  originals : Originals x.sender
  never : NeverDisconnects x.sender
  genuine : x.receiver.Genuine x.sender.history.packets

/- Built packets stay built. -/
theorem genuine_senderStep
    {r : Receiver}
    {s s' : Sender}
    {action : Sender.Action}
    (hGenuine : r.Genuine s.history.packets)
    (hStep : s.step action = some s') :
    r.Genuine s'.history.packets := by
  rcases packets_step hStep with hSame | ⟨p, hNew⟩
  · rw [hSame]
    exact hGenuine
  · rw [hNew]
    exact hGenuine.append [p]

/-
  What arrives does nothing but end the loop, or it is a
  built packet.
-/
theorem recvStep_of_authentic
    {x : Session}
    {result : RecvResult}
    (hOriginals : Originals x.sender)
    (hAuthentic : Authentic x.requests result) :
    x.receiver.recvStep result = x.receiver ∨
      x.receiver.recvStep result =
        { x.receiver with running := false }.finish ∨
      ∃ packet addr,
        x.sender.Built packet.seq packet ∧
        x.receiver.status = .looping ∧
        x.receiver.recvStep result =
          x.receiver.onPacket packet addr := by
  by_cases hLooping :
      x.receiver.status = .looping ∧
        x.receiver.running = true
  · cases result with
    | error value =>
        unfold Receiver.recvStep
        rw [if_pos hLooping]
        dsimp only
        split_ifs
        · exact Or.inr (Or.inl rfl)
        · exact Or.inl rfl
    | datagram bytes addr =>
        rcases hAuthentic with hSent | hRejected
        · have hCarries :
              Carries x.requests (.datagram bytes addr) :=
            hSent
          exact (recvStep_of_carries hOriginals
            hCarries).imp_right Or.inr
        · left
          unfold Receiver.recvStep
          rw [if_pos hLooping]
          dsimp only
          rw [hRejected]
  · left
    unfold Receiver.recvStep
    rw [if_neg hLooping]

/- Leaving the loop writes nothing. -/
theorem genuine_finish
    {packets : List Packet}
    {r : Receiver}
    (hGenuine : r.Genuine packets) :
    Receiver.Genuine packets
      { r with running := false }.finish := by
  refine ⟨?_, fun _ hStatus => by cases hStatus⟩
  rcases hGenuine.output with
    ⟨k, c, hLe, hFirst, hUnopened, hFaithful⟩
  exact ⟨k, c, hLe, hFirst, hUnopened,
    hFaithful.congr rfl rfl rfl
      (by simp [Receiver.finish, Receiver.emit])⟩

theorem intact_step
    {x x' : Session}
    {action : Action}
    (hIntact : Intact x)
    (hStep : x.step action = some x')
    (hExposed : Exposed x action x') :
    Intact x' := by
  cases action with
  | sender action =>
      rcases Option.map_eq_some_iff.mp hStep with
        ⟨s', hSender, rfl⟩
      refine
        ⟨originals_step hIntact.originals hSender
            hExposed.wrap, ?_,
          genuine_senderStep hIntact.genuine hSender⟩
      apply neverDisconnects_step hIntact.never hSender
      intro hCall
      subst hCall
      exact hExposed.stays rfl
  | receive result =>
      cases hStep
      refine ⟨hIntact.originals, hIntact.never, ?_⟩
      dsimp only
      rcases recvStep_of_authentic hIntact.originals
          hExposed.hears with
        hSame | hEnds | ⟨packet, addr, hBuilt, hLooping, hNext⟩
      · rw [hSame]
        exact hIntact.genuine
      · rw [hEnds]
        exact genuine_finish hIntact.genuine
      · rw [hNext]
        apply Receiver.genuine_onPacket addr ?_
          hIntact.genuine hLooping hBuilt
          (hIntact.originals.inRange hBuilt).2
        · exact hIntact.never.kinds packet
            (List.mem_of_getElem? hBuilt)
        · rw [hIntact.originals.length]
          exact hIntact.originals.bounded

/-
  Whatever acknowledgements the sender is given and whatever
  mode either side is in, the output is the payloads of some
  of the packets that were built, in their order and none of
  them twice. If the first packet is a connection request
  then they are one contiguous run, without a gap.
-/
theorem written_genuine
    {config : SenderConfig}
    {w : Nat}
    {selectiveRepeat : Bool}
    {x : Session}
    (hReach :
      Reaches step Exposed
        ⟨Sender.fresh config,
          Receiver.fresh w selectiveRepeat⟩ x) :
    ∃ delivered,
      delivered.Sublist x.sender.history.packets ∧
      Event.written x.receiver.trace =
        delivered.flatMap Packet.payload ∧
      ((∃ first ∈ x.sender.history.packets.head?,
          first.kind = .connReq) →
        delivered <:+: x.sender.history.packets) := by
  have hIntact : Intact x :=
    hReach.invariant
      ⟨originals_fresh config,
        neverDisconnects_fresh config,
        Receiver.genuine_fresh w selectiveRepeat⟩
      (fun _ _ _ hCurrent hNext hAllowed =>
        intact_step hCurrent hNext hAllowed)
  rcases hIntact.genuine.output with
    ⟨k, c, hLe, hFirst, hUnopened, hFaithful⟩
  refine ⟨_, Receiver.delivered_sublist hLe,
    hFaithful.written, ?_⟩
  intro hConn
  rcases hConn with ⟨first, hHead, hKind⟩
  have hNone : k = 0 := by
    cases hPackets : x.sender.history.packets with
    | nil =>
        rw [hPackets] at hFirst
        exact Nat.le_zero.mp hFirst
    | cons head rest =>
        rw [hPackets] at hHead hUnopened
        cases k with
        | zero => rfl
        | succ k =>
            cases hHead
            exact absurd hKind
              (hUnopened first List.mem_cons_self)
  rw [hNone]
  exact Receiver.delivered_infix _ c _

/-
  A go-back-n sender that is only told lies, and a selective
  repeat receiver that gets the packets last to first.
-/
def deceived : List Action :=
  [Action.sender (.call (.connect ⟨0, 1⟩))] ++
    steps .caller 10 ++ steps .sendHandler 13 ++
    answer .connAck 1 13 ++ steps .caller 3 ++
    [Action.sender (.call (.send (.ofBytes [1, 2, 3])))] ++
    steps .caller 10 ++ steps .sendHandler 13 ++
    answer .dataPushAck 2 13 ++ steps .caller 11 ++
    steps .sendHandler 13 ++
    [arrives ((Transfer.data [1, 2, 3]).packet 2),
      arrives ((Transfer.request .push).packet 1),
      Action.receive (.datagram [7] ⟨0, 2⟩),
      arrives ((Transfer.request .connect).packet 0)]

/- The receiver still writes the three bytes. -/
theorem written_genuine_deceived :
    ∃ x delivered,
      Reaches step Exposed
        ⟨Sender.fresh ⟨1, 0, 1, false, false⟩,
          Receiver.fresh 3 true⟩ x ∧
      Event.written x.receiver.trace = [1, 2, 3] ∧
      delivered <:+: x.sender.history.packets ∧
      Event.written x.receiver.trace =
        delivered.flatMap Packet.payload := by
  have hRun :
      ∃ x,
        Reaches step Exposed
          ⟨Sender.fresh ⟨1, 0, 1, false, false⟩,
            Receiver.fresh 3 true⟩ x ∧
        (Event.written x.receiver.trace = [1, 2, 3] ∧
          ∃ first ∈ x.sender.history.packets.head?,
            first.kind = .connReq) :=
    exists_reaches_of_runActions deceived (by decide +kernel)
  rcases hRun with ⟨x, hReach, hWritten, hConn⟩
  rcases written_genuine hReach with
    ⟨delivered, _, hOut, hInfix⟩
  exact ⟨x, delivered, hReach, hWritten, hInfix hConn, hOut⟩

end Session

end Nkurdt
