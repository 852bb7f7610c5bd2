import Nkurdt.Packet.Codec

/-
  The checksum in exact arithmetic.

  The accumulator of the word loop has 32 bits, and two
  rounds of carry folding are enough for any of its values.
  Up to `131074` bytes it holds the exact sum of the words,
  so that the checksum has a closed form.

  Main declarations:
    * `wordSum`
    * `onesFold`
    * `calcChecksum_of_length_pos`
    * `calcChecksum_eq_zero_iff`
    * `checksum_exact`
-/

------------------------------------------------------------
-- Checksum in Exact Arithmetic
------------------------------------------------------------

namespace Nkurdt

/-
  The exact sum of the little-endian 16-bit words; a last
  odd byte is a word whose high byte is zero.
-/
def wordSum : List UInt8 → Nat
| [] => 0
| [last] => last.toNat
| low :: high :: bytes =>
    low.toNat + 256 * high.toNat + wordSum bytes

/- The residue modulo `65535` that carry folding reaches. -/
def onesFold (sum : Nat) : Nat :=
  if sum = 0 then
    0
  else
    (sum - 1) % 65535 + 1

theorem word_eq
    (low high : UInt8) :
    word low high = low.toNat + 256 * high.toNat := by
  have hLow : low.toNat < 2 ^ 8 :=
    low.toNat_lt
  unfold word
  rw [Nat.lor_comm,
    ← Nat.shiftLeft_add_eq_or_of_lt hLow,
    Nat.shiftLeft_eq]
  omega

/- The exact sum never leaves the 32-bit accumulator. -/
theorem wordSum_le
    (bytes : List UInt8) :
    wordSum bytes ≤
      65535 * ((bytes.length + 1) / 2) := by
  induction bytes using wordSum.induct with
  | case1 => simp [wordSum]
  | case2 last =>
      have hLast := last.toNat_lt
      simp only [wordSum, List.length_singleton]
      omega
  | case3 low high bytes ih =>
      have hLow := low.toNat_lt
      have hHigh := high.toNat_lt
      simp only [wordSum, List.length_cons]
      omega

/- Splitting a word sum at an even index. -/
theorem wordSum_append
    (pairs : Nat)
    (left right : List UInt8)
    (hEven : left.length = 2 * pairs) :
    wordSum (left ++ right) =
      wordSum left + wordSum right := by
  induction left using wordSum.induct generalizing pairs with
  | case1 => simp [wordSum]
  | case2 last =>
      simp only [List.length_singleton] at hEven
      omega
  | case3 low high bytes ih =>
      have hTail : bytes.length = 2 * (pairs - 1) := by
        simp only [List.length_cons] at hEven
        omega
      have hSplit := ih (pairs - 1) hTail
      simp only [List.cons_append, wordSum, hSplit]
      omega

/-
  The word loop reads only inside the vector and adds up
  the words from its start index.
-/
theorem sumWords_eq
    (bytes : List UInt8)
    (rounds i sum : Nat)
    (hRange : i + 2 * rounds ≤ bytes.length) :
    sumWords bytes rounds i (sum % 2 ^ 32) =
      some ((sum +
        wordSum ((bytes.drop i).take (2 * rounds))) %
          2 ^ 32) := by
  induction rounds generalizing i sum with
  | zero =>
      simp [sumWords, wordSum]
  | succ rounds ih =>
      have hFirst : i < bytes.length := by omega
      have hSecond : i + 1 < bytes.length := by omega
      have hDrop :
          bytes.drop i =
            bytes[i] :: bytes[i + 1] ::
              bytes.drop (i + 2) := by
        rw [List.drop_eq_getElem_cons hFirst,
          List.drop_eq_getElem_cons hSecond]
      have hTake :
          (bytes.drop i).take (2 * (rounds + 1)) =
            bytes[i] :: bytes[i + 1] ::
              (bytes.drop (i + 2)).take (2 * rounds) := by
        rw [hDrop, show 2 * (rounds + 1) =
          2 * rounds + 1 + 1 by omega]
        rfl
      have hRest :=
        ih (i + 2) (sum + word bytes[i] bytes[i + 1])
          (by omega)
      rw [hTake]
      simp only [sumWords, List.getElem?_eq_getElem hFirst,
        List.getElem?_eq_getElem hSecond,
        Option.bind_eq_bind, Option.bind_some,
        Nat.mod_add_mod, hRest, wordSum]
      rw [word_eq, Nat.add_assoc]

/- Two rounds of carry folding are enough for 32 bits. -/
theorem foldCarries_eq
    {sum : Nat}
    (hSum : sum < 2 ^ 32) :
    foldCarries 2 sum = some (onesFold sum) := by
  have hMask :
      ∀ n : Nat, n &&& 0xFFFF = n % 65536 :=
    fun n => Nat.and_two_pow_sub_one_eq_mod n 16
  simp only [foldCarries, Nat.shiftRight_eq_div_pow, hMask,
    onesFold]
  split_ifs <;> congr 1 <;> omega

/- The sum that is still in the accumulator. -/
theorem sumWords_of_length
    (bytes : List UInt8) :
    sumWords bytes (bytes.length / 2) 0 0 =
      some (wordSum
        (bytes.take (2 * (bytes.length / 2))) % 2 ^ 32) := by
  have hWords :=
    sumWords_eq bytes (bytes.length / 2) 0 0 (by omega)
  rw [List.drop_zero, Nat.zero_add] at hWords
  exact hWords

/- The last byte of a vector of odd length stands alone. -/
theorem drop_of_odd
    {bytes : List UInt8}
    (hOdd : bytes.length % 2 = 1)
    (hLast : bytes.length - 1 < bytes.length) :
    bytes.drop (2 * (bytes.length / 2)) =
      [bytes[bytes.length - 1]] := by
  have hIndex :
      2 * (bytes.length / 2) = bytes.length - 1 := by
    omega
  rw [hIndex, List.drop_eq_getElem_cons hLast,
    List.drop_eq_nil_of_le (by omega)]

/-
  The checksum of a non-empty vector: no index is out of
  range and the carry loop ends.
-/
theorem calcChecksum_of_ne_nil
    {bytes : List UInt8}
    (hNonempty : 0 < bytes.length) :
    calcChecksum bytes =
      some (65535 -
        onesFold (wordSum bytes % 2 ^ 32)) := by
  have hRounds : bytes.length ≠ 0 := by
    omega
  have hAccumulator : wordSum bytes % 2 ^ 32 < 2 ^ 32 :=
    Nat.mod_lt _ (by decide)
  have hFold :
      onesFold (wordSum bytes % 2 ^ 32) ≤ 65535 := by
    unfold onesFold
    split_ifs <;> omega
  have hSplit :=
    wordSum_append (bytes.length / 2)
      (bytes.take (2 * (bytes.length / 2)))
      (bytes.drop (2 * (bytes.length / 2)))
      (by rw [List.length_take]; omega)
  rw [List.take_append_drop] at hSplit
  unfold calcChecksum
  simp only [hRounds, if_false, sumWords_of_length,
    Option.bind_eq_bind, Option.bind_some]
  by_cases hOdd : bytes.length % 2 = 1
  · have hLast : bytes.length - 1 < bytes.length := by
      omega
    rw [drop_of_odd hOdd hLast] at hSplit
    simp only [wordSum] at hSplit
    have hTotal :
        (wordSum (bytes.take (2 * (bytes.length / 2))) %
            2 ^ 32 + bytes[bytes.length - 1].toNat) %
            2 ^ 32 = wordSum bytes % 2 ^ 32 := by
      omega
    simp only [hOdd, if_true,
      List.getElem?_eq_getElem hLast, Option.bind_some,
      hTotal, foldCarries_eq hAccumulator,
      Option.some.injEq]
    omega
  · have hTail :
        bytes.drop (2 * (bytes.length / 2)) = [] :=
      List.drop_eq_nil_of_le (by omega)
    rw [hTail] at hSplit
    simp only [wordSum, Nat.add_zero] at hSplit
    simp only [hOdd, if_false, Option.bind_some, ← hSplit,
      foldCarries_eq hAccumulator, Option.some.injEq]
    omega

/-
  Up to `131074` bytes the accumulator holds the exact sum.
-/
theorem calcChecksum_of_length_pos
    {bytes : List UInt8}
    (hNonempty : 0 < bytes.length)
    (hLength : bytes.length ≤ 131074) :
    calcChecksum bytes =
      some (65535 - onesFold (wordSum bytes)) := by
  have hBound : wordSum bytes < 2 ^ 32 := by
    have hLe := wordSum_le bytes
    omega
  rw [calcChecksum_of_ne_nil hNonempty,
    Nat.mod_eq_of_lt hBound]

/-
  The only read that is out of range is the first one of the
  word loop on the empty vector.
-/
theorem calcChecksum_eq_none_iff
    {bytes : List UInt8} :
    calcChecksum bytes = none ↔ bytes = [] := by
  constructor
  · intro hNone
    by_contra hNe
    have hNonempty := List.length_pos_iff.mpr hNe
    rw [calcChecksum_of_ne_nil hNonempty] at hNone
    exact absurd hNone (by simp)
  · rintro rfl
    unfold calcChecksum
    rfl

/- A sum is a non-zero multiple of `65535` when it verifies. -/
theorem calcChecksum_eq_zero_iff
    {bytes : List UInt8}
    (hNonempty : 0 < bytes.length)
    (hLength : bytes.length ≤ 131074) :
    calcChecksum bytes = some 0 ↔
      0 < wordSum bytes ∧ wordSum bytes % 65535 = 0 := by
  rw [calcChecksum_of_length_pos hNonempty hLength,
    Option.some.injEq]
  unfold onesFold
  by_cases hZero : wordSum bytes = 0
  · rw [if_pos hZero]
    omega
  · rw [if_neg hZero]
    omega

/-
  Adding the complement of the folded sum makes the whole
  vector fold to `65535`.
-/
theorem onesFold_complement
    (sum : Nat) :
    onesFold (sum + (65535 - onesFold sum)) = 65535 := by
  unfold onesFold
  split_ifs <;> omega

end Nkurdt

------------------------------------------------------------
-- Closed Form
------------------------------------------------------------

namespace Nkurdt

/- A part of the words adds up to no more than all. -/
theorem wordSum_take_le
    (bytes : List UInt8)
    {rounds : Nat}
    (hRounds : rounds ≤ bytes.length / 2) :
    wordSum (bytes.take (2 * rounds)) ≤ wordSum bytes := by
  have hSplit :=
    wordSum_append rounds (bytes.take (2 * rounds))
      (bytes.drop (2 * rounds))
      (by rw [List.length_take]; omega)
  rw [List.take_append_drop] at hSplit
  omega

/-
  No addition to the accumulator overflows, so that after
  any number of rounds it holds the exact sum of the words
  read. The carry loop ends, and the checksum is the
  complement of the exact sum folded into 16 bits.
-/
theorem checksum_exact
    {bytes : List UInt8}
    (hNonempty : 1 ≤ bytes.length)
    (hLength : bytes.length ≤ 131074) :
    (∀ rounds, rounds ≤ bytes.length / 2 →
        sumWords bytes rounds 0 0 =
            some (wordSum (bytes.take (2 * rounds))) ∧
          wordSum (bytes.take (2 * rounds)) < 2 ^ 32) ∧
      wordSum bytes < 2 ^ 32 ∧
      (∃ rounds sum,
        foldCarries rounds (wordSum bytes) = some sum) ∧
      calcChecksum bytes =
        some (65535 -
          if wordSum bytes = 0 then
            0
          else
            (wordSum bytes - 1) % 65535 + 1) ∧
      (calcChecksum bytes = some 0 ↔
        0 < wordSum bytes ∧ 65535 ∣ wordSum bytes) := by
  have hSum : wordSum bytes < 2 ^ 32 := by
    have hLe := wordSum_le bytes
    omega
  refine ⟨?_, hSum, ⟨2, _, foldCarries_eq hSum⟩, ?_, ?_⟩
  · intro rounds hRounds
    have hPart := wordSum_take_le bytes hRounds
    have hWords := sumWords_eq bytes rounds 0 0 (by omega)
    rw [List.drop_zero, Nat.zero_add,
      Nat.mod_eq_of_lt (hPart.trans_lt hSum)] at hWords
    exact ⟨hWords, hPart.trans_lt hSum⟩
  · exact calcChecksum_of_length_pos hNonempty hLength
  · rw [calcChecksum_eq_zero_iff hNonempty hLength,
      Nat.dvd_iff_mod_eq_zero]

/- Three bytes: the words are `2 * 256 + 1` and `3`. -/
theorem checksum_exact_three :
    calcChecksum [1, 2, 3] = some (65535 - 516) ∧
      ¬ calcChecksum [1, 2, 3] = some 0 := by
  obtain ⟨_, _, _, hValue, hZero⟩ :=
    @checksum_exact [1, 2, 3] (by decide) (by decide)
  refine ⟨hValue, ?_⟩
  rw [hZero]
  decide

end Nkurdt
