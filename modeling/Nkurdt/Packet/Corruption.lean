import Nkurdt.Packet.Accepted

/-
  The decoder detects every corruption inside two adjacent
  bytes, apart from the exchange of `0x0000` and `0xFFFF`.

  The checksum is a sum of words modulo `65535`, and a byte
  counts in it by its place alone, so a changed pair moves
  the sum by a difference that is zero modulo `65535` only
  when both bytes go from one end of their range to the
  other.

  Main declarations:
    * `wordSum_pair`
    * `Packet.ChangedWithin`
    * `Packet.ZeroOnesSwap`
    * `Packet.corruption_rejected`
-/

------------------------------------------------------------
-- A Pair of Bytes in the Word Sum
------------------------------------------------------------

namespace Nkurdt

/-
  The part of two adjacent bytes in a word sum: the first is
  the low byte of a word at an even index, and the high byte
  of one at an odd index.
-/
def pairValue (i : Nat) (first second : UInt8) : Nat :=
  if i % 2 = 0 then
    first.toNat + 256 * second.toNat
  else
    256 * first.toNat + second.toNat

theorem pairValue_le
    (i : Nat)
    (first second : UInt8) :
    pairValue i first second ≤ 65535 := by
  have hFirst := first.toNat_lt
  have hSecond := second.toNat_lt
  unfold pairValue
  split_ifs <;> omega

/- The rest of the vector counts apart from the pair. -/
theorem wordSum_pair
    (left right : List UInt8) :
    ∃ others, ∀ first second,
      wordSum (left ++ first :: second :: right) =
        others + pairValue left.length first second := by
  induction left using wordSum.induct with
  | case1 =>
      refine ⟨wordSum right, fun first second => ?_⟩
      simp only [List.nil_append, wordSum, pairValue,
        List.length_nil, Nat.zero_mod, if_true]
      omega
  | case2 low =>
      -- the second byte opens the word behind the pair
      cases right with
      | nil =>
          refine ⟨low.toNat, fun first second => ?_⟩
          simp [wordSum, pairValue]
          omega
      | cons high right =>
          refine ⟨low.toNat + 256 * high.toNat +
            wordSum right, fun first second => ?_⟩
          simp [wordSum, pairValue]
          omega
  | case3 low high left ih =>
      obtain ⟨others, hOthers⟩ := ih
      refine ⟨low.toNat + 256 * high.toNat + others,
        fun first second => ?_⟩
      have hParity :
          (low :: high :: left).length % 2 =
            left.length % 2 := by
        simp only [List.length_cons]
        omega
      simp only [List.cons_append, wordSum,
        hOthers first second, pairValue, hParity]
      omega

/-
  Two different pairs with the same part modulo `65535` are
  the two ends of the range.
-/
theorem pairValue_collision
    {i : Nat}
    {first second first' second' : UInt8}
    (others : Nat)
    (hSum :
      (others + pairValue i first second) % 65535 = 0)
    (hSum' :
      (others + pairValue i first' second') % 65535 = 0)
    (hNe : first ≠ first' ∨ second ≠ second') :
    (first = 0 ∧ second = 0 ∧
        first' = 0xFF ∧ second' = 0xFF) ∨
      (first = 0xFF ∧ second = 0xFF ∧
        first' = 0 ∧ second' = 0) := by
  simp only [← UInt8.toNat_inj, ne_eq] at hNe ⊢
  have hZero : (0 : UInt8).toNat = 0 := rfl
  have hOnes : (0xFF : UInt8).toNat = 255 := rfl
  have hFirst := first.toNat_lt
  have hSecond := second.toNat_lt
  have hFirst' := first'.toNat_lt
  have hSecond' := second'.toNat_lt
  rw [hZero, hOnes]
  have hBound := pairValue_le i first second
  have hBound' := pairValue_le i first' second'
  have hDifference :
      pairValue i first second = pairValue i first' second' ∨
        pairValue i first second =
          pairValue i first' second' + 65535 ∨
        pairValue i first' second' =
          pairValue i first second + 65535 := by
    omega
  clear hSum hSum'
  unfold pairValue at *
  split_ifs at * with hEven
  · omega
  · omega

end Nkurdt

------------------------------------------------------------
-- Corrupted Datagrams
------------------------------------------------------------

namespace Nkurdt

namespace Packet

/-
  The received bytes differ from the sent ones, and only at
  two adjacent positions.
-/
structure ChangedWithin
    (sent received : List UInt8)
    (i : Nat) : Prop where
  length_eq : received.length = sent.length
  ne : received ≠ sent
  agree :
    ∀ j, j ≠ i → j ≠ i + 1 → received[j]? = sent[j]?

/- Both bytes of a pair changed between `0x00` and `0xFF`. -/
def ZeroOnesSwap
    (sent received : List UInt8)
    (i : Nat) : Prop :=
  (sent[i]? = some 0 ∧ sent[i + 1]? = some 0 ∧
      received[i]? = some 0xFF ∧
      received[i + 1]? = some 0xFF) ∨
    (sent[i]? = some 0xFF ∧ sent[i + 1]? = some 0xFF ∧
      received[i]? = some 0 ∧ received[i + 1]? = some 0)

/- A list around two adjacent positions. -/
theorem eq_take_append_drop
    (bytes : List UInt8)
    {i : Nat}
    (hInside : i + 1 < bytes.length) :
    bytes =
      bytes.take i ++ bytes[i] :: bytes[i + 1] ::
        bytes.drop (i + 2) := by
  conv_lhs => rw [← List.take_append_drop i bytes]
  rw [List.drop_eq_getElem_cons (by omega),
    List.drop_eq_getElem_cons hInside]

/- A change inside a pair, as the change of that pair. -/
theorem changed_pair
    {sent received : List UInt8}
    {i : Nat}
    (hChanged : ChangedWithin sent received i)
    (hInside : i + 1 < sent.length) :
    ∃ left right first second first' second',
      left.length = i ∧
      sent = left ++ first :: second :: right ∧
      received = left ++ first' :: second' :: right ∧
      (first ≠ first' ∨ second ≠ second') := by
  have hInside' : i + 1 < received.length := by
    rw [hChanged.length_eq]
    exact hInside
  have hLeft : received.take i = sent.take i := by
    apply List.ext_getElem?
    intro j
    by_cases hBefore : j < i
    · rw [List.getElem?_take_of_lt hBefore,
        List.getElem?_take_of_lt hBefore]
      exact hChanged.agree j (by omega) (by omega)
    · rw [List.getElem?_take_eq_none (by omega),
        List.getElem?_take_eq_none (by omega)]
  have hRight :
      received.drop (i + 2) = sent.drop (i + 2) := by
    apply List.ext_getElem?
    intro j
    rw [List.getElem?_drop, List.getElem?_drop]
    exact hChanged.agree _ (by omega) (by omega)
  have hSent := eq_take_append_drop sent hInside
  have hReceived := eq_take_append_drop received hInside'
  rw [hLeft, hRight] at hReceived
  refine ⟨sent.take i, sent.drop (i + 2), sent[i],
    sent[i + 1], received[i], received[i + 1],
    by rw [List.length_take]; omega,
    hSent, hReceived, ?_⟩
  by_contra hSame
  push Not at hSame
  apply hChanged.ne
  rw [hReceived, ← hSame.1, ← hSame.2, ← hSent]

/- A change inside the last two bytes, moved inside. -/
theorem changed_inside
    {sent received : List UInt8}
    {i : Nat}
    (hChanged : ChangedWithin sent received i)
    (hLength : 2 ≤ sent.length) :
    i + 1 < sent.length ∨
      ChangedWithin sent received (sent.length - 2) ∧
        received[sent.length - 2]? =
          sent[sent.length - 2]? := by
  by_cases hInside : i + 1 < sent.length
  · exact Or.inl hInside
  · right
    have hLengthEq := hChanged.length_eq
    refine ⟨⟨hLengthEq, hChanged.ne, ?_⟩,
      hChanged.agree _ (by omega) (by omega)⟩
    intro j hFirst hSecond
    by_cases hEnd : j < sent.length
    · exact hChanged.agree j (by omega) (by omega)
    · rw [List.getElem?_eq_none (by omega),
        List.getElem?_eq_none (by omega)]

/- A corruption that the checksum does not see is a swap. -/
theorem zeroOnesSwap_of_accepted
    {sent received : List UInt8}
    {i : Nat}
    (hChanged : ChangedWithin sent received i)
    (hInside : i + 1 < sent.length)
    (hSent : wordSum sent % 65535 = 0)
    (hReceived : wordSum received % 65535 = 0) :
    ZeroOnesSwap sent received i := by
  obtain ⟨left, right, first, second, first', second',
    rfl, rfl, rfl, hNe⟩ := changed_pair hChanged hInside
  obtain ⟨others, hOthers⟩ := wordSum_pair left right
  rw [hOthers] at hSent hReceived
  have hSwap :=
    pairValue_collision others hSent hReceived hNe
  have hAt :
      ∀ a b : UInt8,
        (left ++ a :: b :: right)[left.length]? = some a ∧
          (left ++ a :: b :: right)[left.length + 1]? =
            some b := by
    intro a b
    rw [List.getElem?_append_right (by omega),
      List.getElem?_append_right (by omega)]
    simp
  unfold ZeroOnesSwap
  rw [(hAt first second).1, (hAt first second).2,
    (hAt first' second').1, (hAt first' second').2]
  simpa only [Option.some.injEq] using hSwap

/-
  A datagram that differs from an encoding inside two
  adjacent bytes is rejected, unless both of them changed
  between `0x00` and `0xFF`; one that differs in a single
  byte is always rejected.
-/
theorem corruption_rejected
    {packet : Packet}
    {received : List UInt8}
    (hRange : packet.InRange)
    (hLength : received.length = packet.toBytes.length)
    (hNe : received ≠ packet.toBytes) :
    (∀ i : Nat,
        (∀ j : Nat, j ≠ i → j ≠ i + 1 →
          received[j]? = packet.toBytes[j]?) →
        fromBytes received = some none ∨
          ZeroOnesSwap packet.toBytes received i) ∧
      ∀ i : Nat,
        (∀ j : Nat, j ≠ i →
          received[j]? = packet.toBytes[j]?) →
        fromBytes received = some none := by
  have hBounds :
      12 ≤ packet.toBytes.length ∧
        packet.toBytes.length ≤ 65549 := by
    rw [toBytes_eq_layout]
    exact length_layout hRange _ _
  have hEmpty : received ≠ [] := by
    rintro rfl
    rw [List.length_nil] at hLength
    omega
  have hSent :=
    (calcChecksum_eq_zero_iff (by omega) (by omega)).mp
      (calcChecksum_toBytes hRange)
  by_cases hChecksum : calcChecksum received = some 0
  · have hReceived :=
      (calcChecksum_eq_zero_iff (by omega) (by omega)).mp
        hChecksum
    have hPair :
        ∀ i, ChangedWithin packet.toBytes received i →
          i + 1 < packet.toBytes.length →
          ZeroOnesSwap packet.toBytes received i :=
      fun i hChanged hInside =>
        zeroOnesSwap_of_accepted hChanged hInside hSent.2
          hReceived.2
    -- a byte of a swapped pair is not left alone
    have hBoth :
        ∀ i : Nat,
          ZeroOnesSwap packet.toBytes received i →
          received[i]? ≠ packet.toBytes[i]? ∧
            received[i + 1]? ≠
              packet.toBytes[i + 1]? := by
      rintro i (hSwap | hSwap)
      · rw [hSwap.1, hSwap.2.1, hSwap.2.2.1, hSwap.2.2.2]
        decide
      · rw [hSwap.1, hSwap.2.1, hSwap.2.2.1, hSwap.2.2.2]
        decide
    have hWithin :
        ∀ i, ChangedWithin packet.toBytes received i →
          ZeroOnesSwap packet.toBytes received i := by
      intro i hChanged
      rcases changed_inside hChanged (by omega) with
        hInside | ⟨hLast, hSame⟩
      · exact hPair i hChanged hInside
      · have hSwap := hPair _ hLast (by omega)
        exact absurd hSame (hBoth _ hSwap).1
    constructor
    · intro i hAgree
      right
      exact hWithin i ⟨hLength, hNe, hAgree⟩
    · intro i hAgree
      exfalso
      have hSwap := hWithin i
        ⟨hLength, hNe, fun j hFirst _ => hAgree j hFirst⟩
      exact (hBoth i hSwap).2 (hAgree (i + 1) (by omega))
  · have hRejected := fromBytes_of_checksum hEmpty hChecksum
    exact ⟨fun _ _ => Or.inl hRejected,
      fun _ _ => hRejected⟩

/- A connection request with its kind byte cleared. -/
theorem corruption_rejected_connReq :
    (⟨1, .connReq, 0, []⟩ : Packet).InRange ∧
      ((⟨1, .connReq, 0, []⟩ : Packet).toBytes.set 6
        0).length =
        (⟨1, .connReq, 0, []⟩ : Packet).toBytes.length ∧
      fromBytes
        ((⟨1, .connReq, 0, []⟩ : Packet).toBytes.set 6 0) =
        some none := by
  have hRange : (⟨1, .connReq, 0, []⟩ : Packet).InRange :=
    ⟨by decide, by decide, by decide⟩
  have hLength :
      ((⟨1, .connReq, 0, []⟩ : Packet).toBytes.set 6
        0).length =
        (⟨1, .connReq, 0, []⟩ : Packet).toBytes.length :=
    List.length_set
  have hNe :
      (⟨1, .connReq, 0, []⟩ : Packet).toBytes.set 6 0 ≠
        (⟨1, .connReq, 0, []⟩ : Packet).toBytes := by
    decide +kernel
  refine ⟨hRange, hLength, ?_⟩
  exact (corruption_rejected hRange hLength hNe).2 6
    (fun j hJ => List.getElem?_set_ne (Ne.symm hJ))

end Packet

end Nkurdt
