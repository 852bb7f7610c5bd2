import Nkurdt.Sender.Keeps

/-
  The packets that `send_packet` builds.

  As long as the upper bound does not wrap around, it counts
  the packets, and each packet carries its own index. The
  pool and the wire then hold only packets that were built,
  under the numbers they were built for.

  Main declarations:
    * `Sender.NoWrap`
    * `CallerPc.transfer?`
    * `CallerPc.allocated?`
    * `Sender.Originals`
    * `Sender.originals_step`
-/

------------------------------------------------------------
-- Bounds That Do Not Wrap
------------------------------------------------------------

namespace Nkurdt

/- A number that was not decreased has been increased. -/
theorem SequenceNumber.update_of_le
    {a : Nat}
    (hLe : a ≤ SequenceNumber.update a) :
    SequenceNumber.update a = a + 1 ∧ a + 1 < 2 ^ 32 := by
  unfold SequenceNumber.update at hLe ⊢
  omega

namespace Sender

/- Neither bound of the window falls back. -/
structure NoWrap (s s' : Sender) : Prop where
  lower : s.window.lowerBound ≤ s'.window.lowerBound
  upper : s.window.upperBound ≤ s'.window.upperBound

instance (s s' : Sender) : Decidable (NoWrap s s') :=
  decidable_of_iff
    (s.window.lowerBound ≤ s'.window.lowerBound ∧
      s.window.upperBound ≤ s'.window.upperBound)
    ⟨fun hBoth => ⟨hBoth.1, hBoth.2⟩,
      fun hWrap => ⟨hWrap.lower, hWrap.upper⟩⟩

end Sender

end Nkurdt

------------------------------------------------------------
-- Built Packets
------------------------------------------------------------

namespace Nkurdt

/- The transfer that `send_packet` is working on. -/
def CallerPc.transfer? : CallerPc → Option Transfer
| .waitWindow t => some t
| .testRunning t => some t
| .upperBound t => some t
| .updateUpper t _ => some t
| .lockPool t _ => some t
| .emplace t _ => some t
| .push t _ => some t
| .unlockPool t => some t
| _ => none

/- The number that `send_packet` has taken but not queued. -/
def CallerPc.allocated? :
    CallerPc → Option (Transfer × Nat)
| .lockPool t seq => some (t, seq)
| .emplace t seq => some (t, seq)
| .push t seq => some (t, seq)
| _ => none

/- A call that begins has taken no number. -/
theorem Sender.CallKeeps.allocated
    {s s' : Sender}
    (hKeeps : Sender.CallKeeps s s') :
    s'.callerPc.allocated? = none := by
  rcases hKeeps.starts with ⟨_, hPc⟩ | hPc
  all_goals rw [hPc]; rfl

namespace Transfer

/- Behind `send_packet` is a wait or the read loop. -/
theorem after_cases
    (t : Transfer) :
    (∃ r, t.after = .check r) ∨ t.after = .read := by
  cases t with
  | request r => exact Or.inl ⟨r, rfl⟩
  | data payload => exact Or.inr rfl

@[simp] theorem length_payload_request
    (r : Request) :
    (request r).payload.length ≤ maxPayloadSize :=
  Nat.zero_le maxPayloadSize

end Transfer

namespace Sender

/- The packet was built under the number. -/
def Built (s : Sender) (n : Nat) (p : Packet) : Prop :=
  s.history.packets[n]? = some p

/- What the packets of a run are. -/
structure Originals (s : Sender) : Prop where
  bounded : s.window.upperBound < 2 ^ 32
  length :
    s.history.packets.length = s.window.upperBound
  numbered :
    ∀ n p, s.Built n p →
      ∃ t : Transfer,
        p = t.packet n ∧ t.payload.length ≤ maxPayloadSize
  pool : ∀ n p, s.packetPool n = some p → s.Built n p
  wire :
    ∀ d ∈ s.history.wire, s.Built d.2.seq d.2
  carried :
    ∀ t, s.callerPc.transfer? = some t →
      t.payload.length ≤ maxPayloadSize
  allocated :
    ∀ t seq, s.callerPc.allocated? = some (t, seq) →
      s.Built seq (t.packet seq)
  reserved :
    ∀ t seq, s.callerPc = .updateUpper t seq →
      seq = s.window.upperBound

/- The number of a built packet is its index. -/
theorem Originals.seq_eq
    {s : Sender}
    (hOriginals : Originals s)
    {n : Nat}
    {p : Packet}
    (hBuilt : s.Built n p) :
    p.seq = n := by
  rcases hOriginals.numbered n p hBuilt with ⟨t, rfl, _⟩
  rfl

theorem Originals.lt_upperBound
    {s : Sender}
    (hOriginals : Originals s)
    {n : Nat}
    {p : Packet}
    (hBuilt : s.Built n p) :
    n < s.window.upperBound := by
  rw [← hOriginals.length]
  exact (List.getElem?_eq_some_iff.mp hBuilt).1

/- Every number below the upper bound has its packet. -/
theorem Originals.exists_built
    {s : Sender}
    (hOriginals : Originals s)
    {n : Nat}
    (hLess : n < s.window.upperBound) :
    ∃ p, s.Built n p := by
  rw [← hOriginals.length] at hLess
  exact ⟨s.history.packets[n],
    List.getElem?_eq_getElem hLess⟩

/- Every built packet is a request that can be encoded. -/
theorem Originals.inRange
    {s : Sender}
    (hOriginals : Originals s)
    {n : Nat}
    {p : Packet}
    (hBuilt : s.Built n p) :
    p.InRange ∧ (getAckKind p.kind).isSome := by
  have hLess := hOriginals.lt_upperBound hBuilt
  have hBounded := hOriginals.bounded
  rcases hOriginals.numbered n p hBuilt with
    ⟨t, rfl, hSize⟩
  refine ⟨⟨?_, ?_, ?_⟩, ?_⟩
  · exact (by decide : 1 < 2 ^ 16)
  · exact lt_trans hLess hBounded
  · exact hSize.trans (by decide)
  · cases t with
    | request r =>
        cases r <;> rfl
    | data payload => rfl

theorem originals_fresh
    (config : SenderConfig) :
    Originals (fresh config) := by
  have hPackets : (fresh config).history.packets = [] := rfl
  refine
    ⟨(by decide : 0 < 2 ^ 32), rfl, ?_, ?_, ?_, ?_, ?_, ?_⟩
  · intro n p hBuilt
    unfold Built at hBuilt
    rw [hPackets] at hBuilt
    simp at hBuilt
  · intro n p hPool
    cases hPool
  · intro d hMember
    cases hMember
  · intro t hTransfer
    cases hTransfer
  · intro t seq hAllocated
    cases hAllocated
  · intro t seq hPc
    cases hPc

/-
  Steps that build no packet, put none in the pool and send
  none; the pool may lose packets.
-/
theorem Originals.congr
    {s s' : Sender}
    (hOriginals : Originals s)
    (hUpper : s'.window.upperBound = s.window.upperBound)
    (hPackets : s'.history.packets = s.history.packets)
    (hPool :
      ∀ n p, s'.packetPool n = some p →
        s.packetPool n = some p)
    (hWire : s'.history.wire = s.history.wire)
    (hTransfer :
      ∀ t, s'.callerPc.transfer? = some t →
        s.callerPc.transfer? = some t)
    (hAllocated :
      ∀ t seq, s'.callerPc.allocated? = some (t, seq) →
        s.callerPc.allocated? = some (t, seq))
    (hReserved :
      ∀ t seq, s'.callerPc = .updateUpper t seq →
        s.callerPc = .updateUpper t seq) :
    Originals s' := by
  have hBuilt : ∀ n p, s'.Built n p ↔ s.Built n p := by
    intro n p
    unfold Built
    rw [hPackets]
  refine
    { bounded := by
        rw [hUpper]
        exact hOriginals.bounded
      length := by
        rw [hUpper, hPackets]
        exact hOriginals.length
      numbered := fun n p hOld =>
        hOriginals.numbered n p ((hBuilt n p).mp hOld)
      pool := fun n p hOld =>
        (hBuilt n p).mpr
          (hOriginals.pool n p (hPool n p hOld))
      wire := ?_
      carried := fun t hNew =>
        hOriginals.carried t (hTransfer t hNew)
      allocated := fun t seq hNew =>
        (hBuilt _ _).mpr
          (hOriginals.allocated t seq
            (hAllocated t seq hNew))
      reserved := ?_ }
  · intro d hMember
    rw [hWire] at hMember
    exact (hBuilt _ _).mpr (hOriginals.wire d hMember)
  · intro t seq hPc
    rw [hUpper]
    exact hOriginals.reserved t seq (hReserved t seq hPc)

/- Waking the caller is invisible to `send_packet`. -/
theorem transfer?_of_wake
    {pc pc' : CallerPc}
    (hWake : pc' = pc ∨ pc' = wake pc) :
    pc'.transfer? = pc.transfer? ∧
      pc'.allocated? = pc.allocated? ∧
      ∀ t seq, pc' = .updateUpper t seq →
        pc = .updateUpper t seq := by
  rcases hWake with rfl | rfl
  · exact ⟨rfl, rfl, fun _ _ hPc => hPc⟩
  · cases pc
    all_goals exact ⟨rfl, rfl, fun _ _ hPc => by cases hPc <;> rfl⟩

end Sender

end Nkurdt

------------------------------------------------------------
-- Steps on Built Packets
------------------------------------------------------------

namespace Nkurdt

namespace Sender

/- A packet that was built stays built. -/
theorem built_append
    {s s' : Sender}
    {n : Nat}
    {p q : Packet}
    (hPackets :
      s'.history.packets = s.history.packets ++ [q])
    (hBuilt : s.Built n p) :
    s'.Built n p := by
  unfold Built at hBuilt ⊢
  rw [hPackets, List.getElem?_append_left]
  · exact hBuilt
  · exact (List.getElem?_eq_some_iff.mp hBuilt).1

/- What was built before the last packet, or that packet. -/
theorem built_of_append
    {s s' : Sender}
    {n : Nat}
    {p q : Packet}
    (hPackets :
      s'.history.packets = s.history.packets ++ [q])
    (hBuilt : s'.Built n p) :
    s.Built n p ∨
      n = s.history.packets.length ∧ p = q := by
  unfold Built at hBuilt ⊢
  rw [hPackets] at hBuilt
  by_cases hOld : n < s.history.packets.length
  · rw [List.getElem?_append_left hOld] at hBuilt
    exact Or.inl hBuilt
  · rw [List.getElem?_append_right (not_lt.mp hOld)] at hBuilt
    have hBound := (List.getElem?_eq_some_iff.mp hBuilt).1
    simp only [List.length_cons, List.length_nil] at hBound
    have hLast : n = s.history.packets.length := by
      omega
    subst hLast
    simp only [Nat.sub_self, List.getElem?_cons_zero,
      Option.some.injEq] at hBuilt
    exact Or.inr ⟨rfl, hBuilt.symm⟩

/- Building a packet under the upper bound. -/
theorem originals_updateUpper
    {s s' : Sender}
    {t : Transfer}
    {seq : Nat}
    (hOriginals : Originals s)
    (hPc : s.callerPc = .updateUpper t seq)
    (hStep : s.callerStep = some s')
    (hWrap : NoWrap s s') :
    Originals s' ∧
      s'.window.upperBound = s.window.upperBound + 1 ∧
      s'.history.packets =
        s.history.packets ++ [t.packet s.window.upperBound] := by
  have hSeq := hOriginals.reserved t seq hPc
  have hSize := hOriginals.carried t (by rw [hPc]; rfl)
  unfold callerStep at hStep
  simp only [hPc, whenFree_eq_some] at hStep
  rcases hStep with ⟨_, rfl⟩
  have hUpper :=
    SequenceNumber.update_of_le hWrap.upper
  refine ⟨?_, hUpper.1, by rw [hSeq]⟩
  refine
    { bounded := ?_
      length := ?_
      numbered := ?_
      pool := ?_
      wire := ?_
      carried := ?_
      allocated := ?_
      reserved := ?_ }
  · exact hUpper.1.trans_lt hUpper.2
  · simp only [List.length_append, List.length_cons,
      List.length_nil, hOriginals.length]
    exact hUpper.1.symm
  · intro n p hBuilt
    rcases built_of_append rfl hBuilt with
      hOld | ⟨hNumber, rfl⟩
    · exact hOriginals.numbered n p hOld
    · rw [hOriginals.length, ← hSeq] at hNumber
      exact ⟨t, by rw [hNumber], hSize⟩
  · intro n p hPool
    exact built_append rfl (hOriginals.pool n p hPool)
  · intro d hMember
    exact built_append rfl (hOriginals.wire d hMember)
  · intro t' hTransfer
    have hSame : t = t' := Option.some.inj hTransfer
    rw [← hSame]
    exact hSize
  · intro t' seq' hAllocated
    have hPair : (t, seq) = (t', seq') :=
      Option.some.inj hAllocated
    rcases Prod.mk.inj hPair with ⟨rfl, rfl⟩
    unfold Built
    rw [List.getElem?_append_right]
    · rw [hOriginals.length, hSeq]
      simp
    · rw [hOriginals.length, hSeq]
  · intro t' seq' hReserved
    cases hReserved

/- The packet of an allocated number goes to the pool. -/
theorem originals_emplace
    {s s' : Sender}
    {t : Transfer}
    {seq : Nat}
    (hOriginals : Originals s)
    (hPc : s.callerPc = .emplace t seq)
    (hStep : s.callerStep = some s') :
    Originals s' := by
  have hBuilt :=
    hOriginals.allocated t seq (by rw [hPc]; rfl)
  have hSize := hOriginals.carried t (by rw [hPc]; rfl)
  unfold callerStep at hStep
  simp only [hPc, Option.some.injEq] at hStep
  subst hStep
  refine
    { hOriginals with
      pool := ?_
      carried := ?_
      allocated := ?_
      reserved := ?_ }
  · intro n p hPool
    dsimp only at hPool
    rw [UnorderedMap.emplace_apply] at hPool
    split_ifs at hPool with hNumber
    · subst hNumber
      rw [← Option.some.inj hPool]
      cases hOld : s.packetPool n with
      | none => exact hBuilt
      | some old => exact hOriginals.pool n old hOld
    · exact hOriginals.pool n p hPool
  · intro t' hTransfer
    have hSame : t = t' := Option.some.inj hTransfer
    rw [← hSame]
    exact hSize
  · intro t' seq' hAllocated
    have hPair : (t, seq) = (t', seq') :=
      Option.some.inj hAllocated
    rcases Prod.mk.inj hPair with ⟨rfl, rfl⟩
    exact hBuilt
  · intro t' seq' hReserved
    cases hReserved

/- No other step of the caller builds or stores a packet. -/
theorem packets_callerStep
    {s s' : Sender}
    (hStep : s.callerStep = some s')
    (hUpdate : ∀ t seq, s.callerPc ≠ .updateUpper t seq)
    (hEmplace : ∀ t seq, s.callerPc ≠ .emplace t seq) :
    s'.window.upperBound = s.window.upperBound ∧
      s'.history.packets = s.history.packets ∧
      s'.packetPool = s.packetPool := by
  cases callerStep_branch hStep with
  | updatesUpper hPc => exact absurd hPc (hUpdate _ _)
  | emplaces hPc => exact absurd hPc (hEmplace _ _)
  | _ => exact ⟨rfl, rfl, rfl⟩

/-
  What the caller works on next: what it worked on before,
  or a chunk it has read, or a request. A number is reserved
  when the upper bound is read.
-/
theorem transfer?_callerStep
    {s s' : Sender}
    (hStep : s.callerStep = some s')
    (hUpdate : ∀ t seq, s.callerPc ≠ .updateUpper t seq) :
    (∀ t, s'.callerPc.transfer? = some t →
      s.callerPc.transfer? = some t ∨
        t.payload.length ≤ maxPayloadSize) ∧
    (∀ t seq, s'.callerPc.allocated? = some (t, seq) →
      s.callerPc.allocated? = some (t, seq)) ∧
    (∀ t seq, s'.callerPc = .updateUpper t seq →
      seq = s.window.upperBound) := by
  cases callerStep_branch hStep with
  | updatesUpper hPc => exact absurd hPc (hUpdate _ _)
  | reads =>
      have hSize :=
        IStream.length_read s.stream maxPayloadSize
      simp [CallerPc.transfer?, CallerPc.allocated?]
      exact Or.inr hSize
  | @abandons t hPc | @unlocksPool t hPc =>
      rw [hPc]
      rcases t.after_cases with ⟨r, hAfter⟩ | hAfter
      all_goals
        simp [hAfter, CallerPc.transfer?,
          CallerPc.allocated?]
  | _ hPc =>
      rw [hPc]
      simp [CallerPc.transfer?, CallerPc.allocated?,
        unlockReturn]

/- Every step of the caller keeps the packets. -/
theorem originals_callerStep
    {s s' : Sender}
    (hOriginals : Originals s)
    (hStep : s.callerStep = some s')
    (hWrap : NoWrap s s') :
    Originals s' := by
  by_cases hUpdate : ∃ t seq, s.callerPc = .updateUpper t seq
  · rcases hUpdate with ⟨t, seq, hPc⟩
    exact (originals_updateUpper hOriginals hPc hStep
      hWrap).1
  by_cases hEmplace : ∃ t seq, s.callerPc = .emplace t seq
  · rcases hEmplace with ⟨t, seq, hPc⟩
    exact originals_emplace hOriginals hPc hStep
  have hNotUpdate :
      ∀ t seq, s.callerPc ≠ .updateUpper t seq :=
    fun t seq hPc => hUpdate ⟨t, seq, hPc⟩
  have hSame :=
    packets_callerStep hStep hNotUpdate
      (fun t seq hPc => hEmplace ⟨t, seq, hPc⟩)
  have hNext := transfer?_callerStep hStep hNotUpdate
  have hKeeps := callerStep_keeps hStep
  have hMain :
      Originals { s' with callerPc := .idle } :=
    hOriginals.congr hSame.1 hSame.2.1
      (fun n p hPool => hSame.2.2 ▸ hPool) hKeeps.wire
      (fun _ hNew => by cases hNew)
      (fun _ _ hNew => by cases hNew)
      (fun _ _ hNew => by cases hNew)
  refine
    { hMain with
      carried := ?_
      allocated := ?_
      reserved := ?_ }
  · intro t hTransfer
    rcases hNext.1 t hTransfer with hOld | hSize
    · exact hOriginals.carried t hOld
    · exact hSize
  · intro t seq hAllocated
    unfold Built
    rw [hSame.2.1]
    exact hOriginals.allocated t seq
      (hNext.2.1 t seq hAllocated)
  · intro t seq hReserved
    rw [hSame.1]
    exact hNext.2.2 t seq hReserved

/- The pool only loses packets to `send_handler`. -/
theorem packetPool_sendHandlerStep
    {s s' : Sender}
    {n : Nat}
    {p : Packet}
    (hStep : s.sendHandlerStep = some s')
    (hPool : s'.packetPool n = some p) :
    s.packetPool n = some p := by
  have hErase :
      ∀ seq,
        (s.packetPool.erase seq) n = some p →
          s.packetPool n = some p := by
    intro seq hErased
    rw [UnorderedMap.erase_apply] at hErased
    split_ifs at hErased
    exact hErased
  cases sendHandlerStep_branch hStep with
  | cleansAcked | cleansBelow => exact hErase _ hPool
  | _ => exact hPool

/- What `send_handler` sends comes from the pool. -/
theorem wire_sendHandlerStep
    {s s' : Sender}
    (hStep : s.sendHandlerStep = some s') :
    s.output? (.thread .sendHandler) = none ∧
        s'.history.wire = s.history.wire ∨
      ∃ seq packet,
        s.sendPc = .transmit seq ∧
        s.packetPool seq = some packet ∧
        s.output? (.thread .sendHandler) =
          some (s.peerAddr, packet.toBytes) ∧
        s'.history.wire =
          s.history.wire ++ [(s.peerAddr, packet)] := by
  unfold output?
  cases sendHandlerStep_branch hStep with
  | @transmits seq packet hPc hPacket =>
      right
      refine ⟨seq, packet, hPc, hPacket, ?_, rfl⟩
      simp only [hPc, hPacket, Option.map_some]
  | findsNone hPc hAbsent =>
      refine Or.inl ⟨?_, rfl⟩
      simp only [hPc, hAbsent, Option.map_none]
  | _ hPc =>
      refine Or.inl ⟨?_, rfl⟩
      simp only [hPc]

/- So does every step of `send_handler`. -/
theorem originals_sendHandlerStep
    {s s' : Sender}
    (hOriginals : Originals s)
    (hStep : s.sendHandlerStep = some s') :
    Originals s' := by
  have hKeeps := sendHandlerStep_keeps hStep
  have hCaller := transfer?_of_wake hKeeps.callerPc
  have hBuilt : ∀ n p, s'.Built n p ↔ s.Built n p := by
    intro n p
    unfold Built
    rw [hKeeps.packets]
  refine
    { bounded := by
        rw [hKeeps.window]
        exact hOriginals.bounded
      length := by
        rw [hKeeps.window, hKeeps.packets]
        exact hOriginals.length
      numbered := fun n p hNew =>
        hOriginals.numbered n p ((hBuilt n p).mp hNew)
      pool := fun n p hPool =>
        (hBuilt n p).mpr (hOriginals.pool n p
          (packetPool_sendHandlerStep hStep hPool))
      wire := ?_
      carried := by
        rw [hCaller.1]
        exact hOriginals.carried
      allocated := ?_
      reserved := ?_ }
  · intro d hMember
    rw [hBuilt]
    rcases wire_sendHandlerStep hStep with
      ⟨_, hSame⟩ | ⟨seq, packet, _, hPool, _, hWire⟩
    · rw [hSame] at hMember
      exact hOriginals.wire d hMember
    · rw [hWire, List.mem_append] at hMember
      rcases hMember with hOld | hNew
      · exact hOriginals.wire d hOld
      · have hPacket := hOriginals.pool seq packet hPool
        rw [List.mem_singleton.mp hNew]
        simp only
        rw [hOriginals.seq_eq hPacket]
        exact hPacket
  · intro t seq hAllocated
    rw [hCaller.2.1] at hAllocated
    exact (hBuilt _ _).mpr
      (hOriginals.allocated t seq hAllocated)
  · intro t seq hPc
    rw [hKeeps.window]
    exact hOriginals.reserved t seq (hCaller.2.2 t seq hPc)

/- And every other step. -/
theorem originals_step
    {s s' : Sender}
    {action : Action}
    (hOriginals : Originals s)
    (hStep : s.step action = some s')
    (hWrap : NoWrap s s') :
    Originals s' := by
  have hRecv :
      RecvHandlerKeeps s s' → Originals s' := by
    intro hKeeps
    have hCaller := transfer?_of_wake hKeeps.callerPc
    refine hOriginals.congr hKeeps.upperBound hKeeps.packets
      ?_ hKeeps.wire ?_ ?_ hCaller.2.2
    · intro n p hPool
      rw [← hKeeps.packetPool]
      exact hPool
    · rw [hCaller.1]
      exact fun _ hOld => hOld
    · rw [hCaller.2.1]
      exact fun _ _ hOld => hOld
  cases action with
  | call call =>
      have hKeeps := callStep_keeps hStep
      rcases hKeeps.starts with ⟨_, hPc⟩ | hPc
      all_goals
        refine hOriginals.congr hKeeps.upperBound
          hKeeps.packets ?_ hKeeps.wire ?_ ?_ ?_
        · rw [hKeeps.packetPool]
          exact fun _ _ hPool => hPool
        all_goals rw [hPc]
        · exact fun _ hNew => by cases hNew
        · exact fun _ _ hNew => by cases hNew
        · exact fun _ _ hNew => by cases hNew
  | thread thread =>
      cases thread with
      | caller =>
          exact originals_callerStep hOriginals hStep hWrap
      | sendHandler =>
          exact originals_sendHandlerStep hOriginals hStep
      | recvHandler =>
          exact hRecv (recvHandlerStep_keeps hStep)
      | timeoutHandler =>
          have hKeeps := timeoutHandlerStep_keeps hStep
          refine hOriginals.congr ?_ ?_ ?_ ?_ ?_ ?_ ?_
          · rw [hKeeps.window]
          · rw [hKeeps.history]
          · rw [hKeeps.packetPool]
            exact fun _ _ hPool => hPool
          · rw [hKeeps.history]
          · rw [hKeeps.callerPc]
            exact fun _ hOld => hOld
          · rw [hKeeps.callerPc]
            exact fun _ _ hOld => hOld
          · rw [hKeeps.callerPc]
            exact fun _ _ hOld => hOld
  | recv result =>
      exact hRecv (recvStep_keeps hStep).toRecvHandlerKeeps
  | timer =>
      rcases Option.map_eq_some_iff.mp hStep with
        ⟨timer, _, rfl⟩
      exact hOriginals.congr rfl rfl (fun _ _ hPool => hPool)
        rfl (fun _ hOld => hOld) (fun _ _ hOld => hOld)
        (fun _ _ hOld => hOld)
  | tick duration =>
      rw [← Option.some.inj hStep]
      exact hOriginals.congr rfl rfl (fun _ _ hPool => hPool)
        rfl (fun _ hOld => hOld) (fun _ _ hOld => hOld)
        (fun _ _ hOld => hOld)
  | wakeCaller =>
      have hCaller :=
        transfer?_of_wake
          (Or.inr rfl : wake s.callerPc = s.callerPc ∨
            wake s.callerPc = wake s.callerPc)
      rw [← Option.some.inj hStep]
      refine hOriginals.congr rfl rfl
        (fun _ _ hPool => hPool) rfl ?_ ?_ hCaller.2.2
      · exact fun t hNew => hCaller.1 ▸ hNew
      · exact fun t seq hNew => hCaller.2.1 ▸ hNew
  | wakeTimer =>
      rw [← Option.some.inj hStep]
      exact hOriginals.congr rfl rfl (fun _ _ hPool => hPool)
        rfl (fun _ hOld => hOld) (fun _ _ hOld => hOld)
        (fun _ _ hOld => hOld)

end Sender

end Nkurdt
