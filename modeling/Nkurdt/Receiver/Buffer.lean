import Nkurdt.Library.Runs
import Nkurdt.Receiver.Slide

/-
  The invariant of the receive buffer.

  `Slidable` is what the slide loop needs of the buffer it
  finds, `Settled` what it leaves behind. An iteration keeps
  `Settled` in a connected session; a connection request
  establishes it provided that the buffer it inherits from
  the idle state lies in the window it sets up.

  Main declarations:
    * `Receiver.Slidable`
    * `Receiver.Settled`
    * `Receiver.BufferInWindow`
    * `Receiver.settled_onPacket`
    * `Receiver.bufferInWindow_of_cleanSync`
-/

------------------------------------------------------------
-- Invariants of the Buffer
------------------------------------------------------------

namespace Nkurdt

namespace Receiver

/- The upper bound is the lower bound plus the window size. -/
def WindowSized (r : Receiver) : Prop :=
  r.window.2 =
    SequenceNumber.add r.window.1 r.maxWindowSize

/-
  The buffered packets lie strictly between the bounds of
  the window, whose size is the configured one.
-/
def BufferInWindow (r : Receiver) : Prop :=
  r.WindowSized ∧
    ∀ p ∈ r.recvBuffer,
      r.window.1 < p.seq ∧ p.seq < r.window.2

instance
    (r : Receiver) :
    Decidable r.BufferInWindow :=
  inferInstanceAs
    (Decidable (_ = _ ∧ ∀ p ∈ r.recvBuffer.elems, _))

/- A packet number that leaves room for a whole window. -/
def Roomy (r : Receiver) (packet : Packet) : Prop :=
  packet.seq + r.maxWindowSize < 2 ^ 32

/- No packet with the number is buffered. -/
def Missing (r : Receiver) (n : Nat) : Prop :=
  ∀ p ∈ r.recvBuffer, p.seq ≠ n

/-
  What holds around every round of the slide loop. The lower
  bound can be the first number without room for a window;
  the buffer is then empty. The loop stops at the least
  missing number, so a buffered packet has to be less than a
  window above every missing one.
-/
structure Slidable (r : Receiver) : Prop where
  positive : 1 ≤ r.maxWindowSize
  sized : r.WindowSized
  lower_le : r.window.1 + r.maxWindowSize ≤ 2 ^ 32
  roomy : ∀ p ∈ r.recvBuffer, r.Roomy p
  low : ∀ p ∈ r.recvBuffer, r.window.1 ≤ p.seq
  high :
    ∀ p ∈ r.recvBuffer,
      ∀ n, r.window.1 ≤ n → r.Missing n →
        p.seq < n + r.maxWindowSize

/- A slidable receiver whose slide loop has run to its end. -/
structure Settled (r : Receiver) : Prop
    extends Slidable r where
  stuck : r.slideStep = none

/- The loop stops at a missing number. -/
theorem Settled.lt_lower
    {r : Receiver}
    (hSettled : r.Settled)
    {p : Packet}
    (hMember : p ∈ r.recvBuffer) :
    r.window.1 < p.seq ∧
      p.seq < r.window.1 + r.maxWindowSize := by
  have hAbove :=
    window_ne_of_slideStep_none hSettled.stuck hSettled.low
  refine ⟨hAbove p hMember, ?_⟩
  exact hSettled.high p hMember r.window.1 le_rfl
    (fun q hOther => (hAbove q hOther).ne')

theorem Settled.bufferInWindow
    {r : Receiver}
    (hSettled : r.Settled) :
    r.BufferInWindow := by
  refine ⟨hSettled.sized, ?_⟩
  intro p hMember
  have hBounds := hSettled.lt_lower hMember
  have hRoomy := hSettled.roomy p hMember
  have hSized := hSettled.sized
  unfold Roomy at hRoomy
  unfold WindowSized at hSized
  rw [SequenceNumber.add_of_lt (by omega)] at hSized
  omega

/- The numbers that a settled receiver accepts. -/
theorem Settled.lt_of_lt_upper
    {r : Receiver}
    (hSettled : r.Settled)
    {seq : Nat}
    (hUpper : seq < r.window.2) :
    seq < r.window.1 + r.maxWindowSize := by
  have hSized := hSettled.sized
  unfold WindowSized SequenceNumber.add at hSized
  omega

end Receiver

end Nkurdt

------------------------------------------------------------
-- Preservation
------------------------------------------------------------

namespace Nkurdt

namespace Receiver

/- A round of the slide loop keeps the buffer slidable. -/
theorem slidable_slideStep
    {r next : Receiver}
    (hSlidable : r.Slidable)
    (hStep : r.slideStep = some next) :
    next.Slidable := by
  rcases slideStep_eq_some hStep with
    ⟨first, hFirst, hExpected, rfl⟩
  have hMember := (OrderedSet.first?_eq_some hFirst).1
  have hRoomy := hSlidable.roomy first hMember
  have hPositive := hSlidable.positive
  unfold Roomy at hRoomy
  have hLower :
      SequenceNumber.update r.window.1 =
        r.window.1 + 1 := by
    unfold SequenceNumber.update
    omega
  have hOld :
      ∀ p ∈ r.recvBuffer.eraseFirst,
        p ∈ r.recvBuffer ∧ p.seq ≠ first.seq :=
    fun p hErased =>
      (OrderedSet.mem_eraseFirst_iff hFirst).mp hErased
  refine ⟨hPositive, ?_, ?_, ?_, ?_, ?_⟩
  · have hSized := hSlidable.sized
    unfold WindowSized SequenceNumber.add at hSized ⊢
    dsimp only
    rw [hLower, hSized]
    unfold SequenceNumber.update
    omega
  · dsimp only
    rw [hLower]
    omega
  · intro p hErased
    exact hSlidable.roomy p (hOld p hErased).1
  · intro p hErased
    have hLow := hSlidable.low p (hOld p hErased).1
    have hOther := (hOld p hErased).2
    dsimp only
    rw [hLower]
    omega
  · intro p hErased n hAbove hMissing
    dsimp only at hAbove
    rw [hLower] at hAbove
    refine hSlidable.high p (hOld p hErased).1 n
      (by omega) ?_
    intro q hBuffered hNumber
    refine hMissing q ?_ hNumber
    exact (OrderedSet.mem_eraseFirst_iff hFirst).mpr
      ⟨hBuffered, by omega⟩

/- Sliding settles a slidable buffer. -/
theorem settled_insertAndSlide
    {r : Receiver}
    {packet : Packet}
    (hSlidable :
      Slidable { r with
        recvBuffer := r.recvBuffer.insert packet }) :
    (r.insertAndSlide packet).Settled :=
  ⟨insertAndSlide_invariant
      (fun _ _ => slidable_slideStep) hSlidable,
    slideStep_insertAndSlide r packet⟩

/-
  Buffering a packet makes the buffer slidable. The number
  of the packet need not be missing any more, so the packets
  before it are only compared with the other gaps.
-/
theorem slidable_insert
    {r : Receiver}
    {packet : Packet}
    (hPositive : 1 ≤ r.maxWindowSize)
    (hSized : r.WindowSized)
    (hRoomy : ∀ p ∈ r.recvBuffer, r.Roomy p)
    (hLow : ∀ p ∈ r.recvBuffer, r.window.1 ≤ p.seq)
    (hGap :
      ∀ p ∈ r.recvBuffer,
        ∀ n, r.window.1 ≤ n → n ≠ packet.seq →
          r.Missing n → p.seq < n + r.maxWindowSize)
    (hPacketRoomy : r.Roomy packet)
    (hPacketLow : r.window.1 ≤ packet.seq)
    (hPacketHigh :
      packet.seq < r.window.1 + r.maxWindowSize) :
    Slidable { r with
      recvBuffer := r.recvBuffer.insert packet } := by
  have hOld :
      ∀ p ∈ r.recvBuffer.insert packet,
        p ∈ r.recvBuffer ∨ p = packet := by
    intro p hMember
    exact (OrderedSet.mem_insert_iff.mp hMember).imp_right
      And.left
  refine ⟨hPositive, hSized, ?_, ?_, ?_, ?_⟩
  · unfold Roomy at hPacketRoomy
    dsimp only
    omega
  · intro p hMember
    rcases hOld p hMember with hBuffered | rfl
    · exact hRoomy p hBuffered
    · exact hPacketRoomy
  · intro p hMember
    rcases hOld p hMember with hBuffered | rfl
    · exact hLow p hBuffered
    · exact hPacketLow
  · intro p hMember n hAbove hMissing
    dsimp only at hAbove ⊢
    rcases hOld p hMember with hBuffered | rfl
    · refine hGap p hBuffered n hAbove ?_ ?_
      · intro hNumber
        rcases OrderedSet.exists_mem_insert r.recvBuffer
          packet with ⟨q, hInserted, hKey⟩
        exact hMissing q hInserted (hKey.trans hNumber.symm)
      · intro q hOther
        exact hMissing q (OrderedSet.mem_insert_of_mem hOther)
    · omega

/- Neither settling nor the buffer reads the other fields. -/
theorem Settled.congr
    {r r' : Receiver}
    (hSettled : r.Settled)
    (hWindow : r'.window = r.window)
    (hBuffer : r'.recvBuffer = r.recvBuffer)
    (hSize : r'.maxWindowSize = r.maxWindowSize) :
    r'.Settled := by
  rcases r with ⟨window, buffer, peer, size, state, running,
    mode, os, trace, status⟩
  rcases r' with ⟨window', buffer', peer', size', state',
    running', mode', os', trace', status'⟩
  dsimp only at hWindow hBuffer hSize
  subst hWindow hBuffer hSize
  refine
    ⟨⟨hSettled.positive, hSettled.sized, hSettled.lower_le,
      hSettled.roomy, hSettled.low, hSettled.high⟩, ?_⟩
  have hStuck := hSettled.stuck
  unfold slideStep at hStuck ⊢
  dsimp only at hStuck ⊢
  split at hStuck
  · rfl
  · split_ifs at hStuck with hExpected
    rw [if_neg hExpected]

/- The switch touches the window in the idle state only. -/
theorem switchState_of_not_idle
    {r : Receiver}
    (packet : Packet)
    (addr : SocketAddr)
    (hState : r.state ≠ .idle) :
    (r.switchState packet addr).1.window = r.window ∧
      (r.switchState packet addr).1.peerAddr =
        r.peerAddr := by
  unfold switchState
  cases hCase : r.state with
  | idle => exact absurd hCase hState
  | connected =>
      dsimp only
      split_ifs <;> exact ⟨rfl, rfl⟩
  | receiving =>
      dsimp only
      split_ifs <;> exact ⟨rfl, rfl⟩

/- The switch never touches the buffer or its settings. -/
theorem switchState_frame
    (r : Receiver)
    (packet : Packet)
    (addr : SocketAddr) :
    (r.switchState packet addr).1.recvBuffer =
        r.recvBuffer ∧
      (r.switchState packet addr).1.maxWindowSize =
        r.maxWindowSize ∧
      (r.switchState packet addr).1.selectiveRepeat =
        r.selectiveRepeat ∧
      (r.switchState packet addr).1.osIsSet = r.osIsSet ∧
      (r.switchState packet addr).1.running = r.running ∧
      (r.switchState packet addr).1.trace = r.trace ∧
      (r.switchState packet addr).1.status = r.status := by
  unfold switchState
  split
  all_goals
    split_ifs <;> exact ⟨rfl, rfl, rfl, rfl, rfl, rfl, rfl⟩

/- A packet that the window of a settled receiver takes. -/
theorem slidable_switchState
    {r : Receiver}
    {packet : Packet}
    (addr : SocketAddr)
    (hRoomy : r.Roomy packet)
    (hState : r.state ≠ .idle)
    (hSettled : r.Settled)
    (hInside :
      r.window.1 ≤ packet.seq ∧ packet.seq < r.window.2) :
    Slidable { (r.switchState packet addr).1 with
      recvBuffer :=
        (r.switchState packet addr).1.recvBuffer.insert
          packet } := by
  have hSame := switchState_of_not_idle packet addr hState
  have hFrame := switchState_frame r packet addr
  have hSwitched :
      (r.switchState packet addr).1.Settled :=
    hSettled.congr hSame.1 hFrame.1 hFrame.2.1
  apply slidable_insert hSwitched.positive
    hSwitched.sized hSwitched.roomy hSwitched.low
  · intro p hMember n hAbove _ hMissing
    exact hSwitched.high p hMember n hAbove hMissing
  · unfold Roomy
    rw [hFrame.2.1]
    exact hRoomy
  · rw [hSame.1]
    exact hInside.1
  · rw [hSame.1, hFrame.2.1]
    exact hSettled.lt_of_lt_upper hInside.2

/-
  In a connected session every request keeps the buffer
  settled, whatever its kind and number.
-/
theorem settled_onPacket
    {r : Receiver}
    {packet : Packet}
    (addr : SocketAddr)
    (hRequest : (getAckKind packet.kind).isSome)
    (hRoomy : r.Roomy packet)
    (hState : r.state ≠ .idle)
    (hSettled : r.Settled) :
    (r.onPacket packet addr).Settled := by
  rcases Option.isSome_iff_exists.mp hRequest with
    ⟨ackKind, hAck⟩
  rcases onPacket_cases addr hAck with
    ⟨_, _, hStep⟩ | ⟨_, _, _, hStep⟩ | ⟨hAccept, hStep⟩
  · rw [hStep, reply_eq]
    exact hSettled.congr rfl rfl rfl
  · rw [hStep]
    split_ifs
    · exact hSettled
    · rw [reply_eq]
      exact hSettled.congr rfl rfl rfl
  · have hSlid :=
      settled_insertAndSlide
        (slidable_switchState addr hRoomy hState hSettled
          (hAccept.resolve_left hState))
    rw [hStep, accept_eq]
    exact hSlid.congr rfl rfl rfl

end Receiver

end Nkurdt

------------------------------------------------------------
-- Runs From the Idle State
------------------------------------------------------------

namespace Nkurdt

namespace Receiver

open Runs

/- A request that leaves room for a window above it. -/
def RequestArrives
    (r : Receiver)
    (arrival : Packet × SocketAddr) : Prop :=
  (getAckKind arrival.1.kind).isSome ∧ r.Roomy arrival.1

instance
    (r : Receiver)
    (arrival : Packet × SocketAddr) :
    Decidable (r.RequestArrives arrival) :=
  inferInstanceAs
    (Decidable (_ ∧ _ + _ < _))

/-
  If the packet is a connection request that the idle
  receiver accepts, the packets buffered before it fit the
  window that it sets up: none lies below it, and each is
  less than a window above every number still missing.
-/
def CleanSync
    (r : Receiver)
    (arrival : Packet × SocketAddr) : Prop :=
  r.state = .idle →
    arrival.1.kind = .connReq →
      ∀ p ∈ r.recvBuffer,
        arrival.1.seq ≤ p.seq ∧
          ∀ n, arrival.1.seq < n → r.Missing n →
            p.seq < n + r.maxWindowSize

/- Buffering and sliding adds at most the new packet. -/
theorem mem_of_mem_insertAndSlide
    {r : Receiver}
    {packet p : Packet}
    (hMember : p ∈ (r.insertAndSlide packet).recvBuffer) :
    p ∈ r.recvBuffer ∨ p = packet := by
  have hSubset :
      ∀ p ∈ (r.insertAndSlide packet).recvBuffer,
        p ∈ r.recvBuffer.insert packet := by
    let Inv (current : Receiver) : Prop :=
      ∀ p ∈ current.recvBuffer,
        p ∈ r.recvBuffer.insert packet
    have hStep :
        ∀ current next,
          Inv current →
          current.slideStep = some next →
          Inv next := by
      intro current next hCurrent hStep p hErased
      rcases slideStep_eq_some hStep with
        ⟨first, hFirst, _, rfl⟩
      exact hCurrent p
        ((OrderedSet.mem_eraseFirst_iff hFirst).mp
          hErased).1
    exact insertAndSlide_invariant hStep
      (fun p hInserted => hInserted)
  exact (OrderedSet.mem_insert_iff.mp
    (hSubset p hMember)).imp_right And.left

/- An iteration buffers at most the packet it received. -/
theorem mem_of_mem_onPacket
    {r : Receiver}
    {packet p : Packet}
    {addr : SocketAddr}
    (hRequest : (getAckKind packet.kind).isSome)
    (hMember : p ∈ (r.onPacket packet addr).recvBuffer) :
    p ∈ r.recvBuffer ∨ p = packet := by
  rcases Option.isSome_iff_exists.mp hRequest with
    ⟨ackKind, hAck⟩
  rcases onPacket_cases addr hAck with
    ⟨_, _, hStep⟩ | ⟨_, _, _, hStep⟩ | ⟨_, hStep⟩
  · rw [hStep, reply_eq] at hMember
    exact Or.inl hMember
  · rw [hStep] at hMember
    split_ifs at hMember
    · exact Or.inl hMember
    · rw [reply_eq] at hMember
      exact Or.inl hMember
  · rw [hStep, accept_eq] at hMember
    rw [← (switchState_frame r packet addr).1]
    exact mem_of_mem_insertAndSlide hMember

/- No iteration changes the configuration. -/
theorem config_onPacket
    (r : Receiver)
    (packet : Packet)
    (addr : SocketAddr) :
    (r.onPacket packet addr).maxWindowSize =
        r.maxWindowSize ∧
      (r.onPacket packet addr).selectiveRepeat =
        r.selectiveRepeat ∧
      (r.onPacket packet addr).osIsSet = r.osIsSet ∧
      (r.onPacket packet addr).running = r.running := by
  have hFrame := switchState_frame r packet addr
  unfold onPacket
  cases hAck : getAckKind packet.kind with
  | none =>
      split_ifs <;> exact ⟨rfl, rfl, rfl, rfl⟩
  | some ackKind =>
      dsimp only
      split_ifs <;> simp [reply_eq, accept_eq, hFrame]

/- The idle receiver accepts every connection request. -/
theorem onPacket_connReq
    {r : Receiver}
    {packet : Packet}
    (addr : SocketAddr)
    (hKind : packet.kind = .connReq)
    (hState : r.state = .idle) :
    r.onPacket packet addr =
      r.accept packet .connAck addr := by
  have hAck : getAckKind packet.kind = some .connAck := by
    rw [hKind]
    rfl
  have hNotAck : packet.isAck = false := by
    unfold Packet.isAck
    rw [hKind]
    rfl
  unfold onPacket
  simp [hNotAck, hAck, hState]

/- The window that a connection request sets up. -/
theorem window_switchState_connReq
    {r : Receiver}
    {packet : Packet}
    (addr : SocketAddr)
    (hKind : packet.kind = .connReq)
    (hState : r.state = .idle) :
    (r.switchState packet addr).1.window =
      (packet.seq,
        SequenceNumber.add packet.seq
          (r.maxWindowSize % 2 ^ 32)) := by
  unfold switchState
  simp [hState, hKind]

/-
  The slide loop can run on a connection request that finds
  only packets that fit its window.
-/
theorem slidable_connReq
    {r : Receiver}
    {packet : Packet}
    (addr : SocketAddr)
    (hWindow : 1 ≤ r.maxWindowSize)
    (hState : r.state = .idle)
    (hKind : packet.kind = .connReq)
    (hRoomy : r.Roomy packet)
    (hBuffered : ∀ p ∈ r.recvBuffer, r.Roomy p)
    (hSync : r.CleanSync (packet, addr)) :
    Slidable { (r.switchState packet addr).1 with
      recvBuffer :=
        (r.switchState packet addr).1.recvBuffer.insert
          packet } := by
  have hInside := hSync hState hKind
  have hFrame := switchState_frame r packet addr
  have hSwitch :=
    window_switchState_connReq addr hKind hState
  unfold Roomy at hRoomy hBuffered
  apply slidable_insert
  · rw [hFrame.2.1]
    exact hWindow
  · unfold WindowSized
    rw [hSwitch, hFrame.2.1]
    simp only
    rw [Nat.mod_eq_of_lt (by omega)]
  · unfold Roomy
    rw [hFrame.1, hFrame.2.1]
    exact hBuffered
  · rw [hSwitch, hFrame.1]
    exact fun p hMember => (hInside p hMember).1
  · unfold Missing
    rw [hSwitch, hFrame.1, hFrame.2.1]
    intro p hMember n hAbove hOther hMissing
    refine (hInside p hMember).2 n ?_ hMissing
    exact lt_of_le_of_ne hAbove hOther.symm
  · unfold Roomy
    rw [hFrame.2.1]
    exact hRoomy
  · rw [hSwitch]
  · rw [hSwitch, hFrame.2.1]
    simp only
    omega

/- The connection request leaves a settled buffer. -/
theorem settled_onPacket_connReq
    {r : Receiver}
    {packet : Packet}
    (addr : SocketAddr)
    (hWindow : 1 ≤ r.maxWindowSize)
    (hState : r.state = .idle)
    (hKind : packet.kind = .connReq)
    (hRoomy : r.Roomy packet)
    (hBuffered : ∀ p ∈ r.recvBuffer, r.Roomy p)
    (hSync : r.CleanSync (packet, addr)) :
    (r.onPacket packet addr).Settled := by
  have hSlid :=
    settled_insertAndSlide
      (slidable_connReq addr hWindow hState hKind hRoomy
        hBuffered hSync)
  rw [onPacket_connReq addr hKind hState, accept_eq]
  exact hSlid.congr rfl rfl rfl

/- What every iteration on clean traffic keeps. -/
structure CleanRun (w : Nat) (r : Receiver) : Prop where
  size : r.maxWindowSize = w
  roomy : ∀ p ∈ r.recvBuffer, r.Roomy p
  settled : r.state ≠ .idle → r.Settled

theorem cleanRun_fresh
    (w : Nat)
    (selectiveRepeat : Bool) :
    CleanRun w (fresh w selectiveRepeat) := by
  refine ⟨rfl, ?_, ?_⟩
  · intro p hMember
    exact absurd hMember (OrderedSet.not_mem_empty p)
  · intro hState
    exact absurd rfl hState

/- Only a connection request leaves the idle state. -/
theorem state_onPacket_of_idle
    {r : Receiver}
    {packet : Packet}
    {addr : SocketAddr}
    (hState : r.state = .idle)
    (hKind : packet.kind ≠ .connReq) :
    (r.onPacket packet addr).state = .idle := by
  have hSwitch :
      (r.switchState packet addr).1.state = .idle := by
    unfold switchState
    simp [hState, hKind]
  unfold onPacket
  cases hAck : getAckKind packet.kind with
  | none =>
      split_ifs <;> exact hState
  | some ackKind =>
      simp only [hState, ne_eq, not_true_eq_false,
        and_false, if_false]
      split_ifs
      · exact hState
      · rw [accept_eq]
        simpa using hSwitch

theorem cleanRun_onPacket
    {w : Nat}
    {r : Receiver}
    {arrival : Packet × SocketAddr}
    (hWindow : 1 ≤ w)
    (hRun : CleanRun w r)
    (hRequest : r.RequestArrives arrival)
    (hSync : r.CleanSync arrival) :
    CleanRun w (r.onPacket arrival.1 arrival.2) := by
  have hSize :=
    (config_onPacket r arrival.1 arrival.2).1
  refine ⟨hSize.trans hRun.size, ?_, ?_⟩
  · intro p hMember
    unfold Roomy
    rw [hSize]
    rcases mem_of_mem_onPacket hRequest.1 hMember with
      hOld | rfl
    · exact hRun.roomy p hOld
    · exact hRequest.2
  · intro hNext
    by_cases hState : r.state = .idle
    · by_cases hKind : arrival.1.kind = .connReq
      · exact settled_onPacket_connReq arrival.2
          (by rw [hRun.size]; exact hWindow) hState hKind
          hRequest.2 hRun.roomy hSync
      · exact absurd
          (state_onPacket_of_idle hState hKind) hNext
    · exact settled_onPacket arrival.2 hRequest.1
        hRequest.2 hState (hRun.settled hState)

/-
  On request traffic of any order, starting in the fresh
  idle state, the buffer stays inside the window as long as
  every connection request finds the buffer so.
-/
theorem bufferInWindow_of_cleanSync
    {w : Nat}
    {selectiveRepeat : Bool}
    {r : Receiver}
    (hWindow : 1 ≤ w)
    (hReach :
      Reaches packetStep
        (fun current arrival _ =>
          current.RequestArrives arrival ∧
            current.CleanSync arrival)
        (fresh w selectiveRepeat) r)
    (hState : r.state ≠ .idle) :
    r.BufferInWindow := by
  have hRun : CleanRun w r := by
    refine hReach.invariant
      (cleanRun_fresh w selectiveRepeat) ?_
    intro current arrival next hCurrent hNext hAllowed
    unfold packetStep at hNext
    split_ifs at hNext with hLooping
    rw [← Option.some.inj hNext]
    exact cleanRun_onPacket hWindow hCurrent hAllowed.1
      hAllowed.2
  exact (hRun.settled hState).bufferInWindow

/- A request without payload from a fixed address. -/
def request
    (kind : PacketKind)
    (seq : Nat) : Packet × SocketAddr :=
  (⟨version, kind, seq, []⟩, ⟨0, 0⟩)

/- A connection request, then data across a gap. -/
theorem bufferInWindow_of_cleanSync_gap :
    BufferInWindow
      (((fresh 3 true).onPacket
        (request .connReq 0).1 ⟨0, 0⟩).onPacket
          (request .data 2).1 ⟨0, 0⟩) := by
  have hStart :
      Reaches packetStep
        (fun current arrival _ =>
          current.RequestArrives arrival ∧
            current.CleanSync arrival)
        (fresh 3 true)
        ((fresh 3 true).onPacket
          (request .connReq 0).1 ⟨0, 0⟩) := by
    apply Reaches.tail .refl
    · exact (rfl :
        (fresh 3 true).packetStep (request .connReq 0) = _)
    · refine ⟨by decide, ?_⟩
      intro _ _ p hMember
      exact absurd hMember (OrderedSet.not_mem_empty p)
  apply bufferInWindow_of_cleanSync
  · exact (by decide : 1 ≤ 3)
  · apply Reaches.tail hStart
    · exact (rfl :
        packetStep _ (request .data 2) = _)
    · refine ⟨by decide, ?_⟩
      intro _ hKind
      exact absurd hKind (by decide)
  · decide

/-
  The idle state buffers what it rejects. A data packet that
  arrives before the connection request stays in the buffer,
  below the window, and blocks the slide loop.
-/
theorem exists_not_bufferInWindow :
    ∃ r,
      Reaches packetStep
        (fun current arrival _ =>
          current.RequestArrives arrival)
        (fresh 4 false) r ∧
      (r.state ≠ .idle ∧ ¬ r.BufferInWindow) :=
  exists_reaches_of_runActions
    [request .data 5, request .connReq 10]
    (by decide +kernel)

end Receiver

end Nkurdt
