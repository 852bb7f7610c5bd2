import Nkurdt.Packet.RoundTrip

/-
  What the decoder accepts, and where it reads.

  The decoder is first stated on the parts of a datagram: the
  twelve bytes of the header and the optional tail. An
  accepted datagram is then an encoding with some checksum
  field, possibly followed by bytes that are not looked at.

  Main declarations:
    * `Packet.decodeTail`
    * `Packet.fromBytes_header`
    * `Packet.layout_of_fromBytes`
    * `Packet.normalises`
    * `Packet.reads_inside_iff`
-/

------------------------------------------------------------
-- Bytes of a Number
------------------------------------------------------------

namespace Nkurdt

namespace Packet

theorem eq_byteAt
    {byte : UInt8}
    {n shift : Nat}
    (hValue : n / 2 ^ shift % 256 = byte.toNat) :
    byteAt n shift = byte := by
  apply UInt8.toNat_inj.mp
  rw [byteAt_toNat, hValue]

/- The bytes of a word, low byte first. -/
theorem byteAt_word
    (low high : UInt8) :
    byteAt (word low high) 0 = low ∧
      byteAt (word low high) 8 = high := by
  have hLow := low.toNat_lt
  have hHigh := high.toNat_lt
  rw [word_eq]
  constructor
  · apply eq_byteAt
    omega
  · apply eq_byteAt
    omega

theorem word_lt
    (low high : UInt8) :
    word low high < 2 ^ 16 := by
  have hLow := low.toNat_lt
  have hHigh := high.toNat_lt
  rw [word_eq]
  omega

/- A sequence number from its two words. -/
def joinWords (low high : Nat) : Nat :=
  low ||| (high <<< 16)

/- The four bytes of a sequence number, low byte first. -/
theorem byteAt_joinWords
    (byte0 byte1 byte2 byte3 : UInt8) :
    let seq :=
      joinWords (word byte0 byte1) (word byte2 byte3)
    seq < 2 ^ 32 ∧
      byteAt seq 0 = byte0 ∧
      byteAt seq 8 = byte1 ∧
      byteAt seq 16 = byte2 ∧
      byteAt seq 24 = byte3 := by
  have hBound0 := byte0.toNat_lt
  have hBound1 := byte1.toNat_lt
  have hBound2 := byte2.toNat_lt
  have hBound3 := byte3.toNat_lt
  have hValue :
      joinWords (word byte0 byte1) (word byte2 byte3) =
        byte0.toNat + 256 * byte1.toNat +
          65536 * (byte2.toNat + 256 * byte3.toNat) := by
    unfold joinWords
    rw [lor_shiftLeft_eq _ (word_lt byte0 byte1),
      word_eq, word_eq]
  rw [hValue]
  refine ⟨by omega, ?_, ?_, ?_, ?_⟩
  · apply eq_byteAt
    omega
  · apply eq_byteAt
    omega
  · apply eq_byteAt
    omega
  · apply eq_byteAt
    omega

end Packet

end Nkurdt

------------------------------------------------------------
-- The Decoder by Parts
------------------------------------------------------------

namespace Nkurdt

namespace Packet

/-
  The payload that the decoder reads behind the header. With
  a single byte there, the high byte of the size is read out
  of range.
-/
def decodeTail :
    List UInt8 → Option (Option (List UInt8))
| [] => some (some [])
| [_] => none
| low :: high :: rest =>
    if rest.length < word low high then
      some none
    else
      some (some (rest.take (word low high)))

theorem decodeTail_eq_none_iff
    {tail : List UInt8} :
    decodeTail tail = none ↔ tail.length = 1 := by
  cases tail with
  | nil => simp [decodeTail]
  | cons low tail =>
      cases tail with
      | nil => simp [decodeTail]
      | cons high rest =>
          simp only [decodeTail]
          split_ifs <;> simp

/- A datagram that is long enough, taken apart. -/
theorem exists_header
    {bytes : List UInt8}
    (hLength : 12 ≤ bytes.length) :
    ∃ magicN magicK version0 version1 checksum0 checksum1
        kind reserved seq0 seq1 seq2 seq3 tail,
      bytes =
        magicN :: magicK :: version0 :: version1 ::
          checksum0 :: checksum1 :: kind :: reserved ::
          seq0 :: seq1 :: seq2 :: seq3 :: tail := by
  match bytes, hLength with
  | magicN :: magicK :: version0 :: version1 ::
      checksum0 :: checksum1 :: kind :: reserved ::
      seq0 :: seq1 :: seq2 :: seq3 :: tail, _ =>
      exact ⟨magicN, magicK, version0, version1, checksum0,
        checksum1, kind, reserved, seq0, seq1, seq2, seq3,
        tail, rfl⟩

/- What does not verify is rejected. -/
theorem fromBytes_of_checksum
    {bytes : List UInt8}
    (hNonempty : bytes ≠ [])
    (hChecksum : calcChecksum bytes ≠ some 0) :
    fromBytes bytes = some none := by
  cases hValue : calcChecksum bytes with
  | none =>
      exact absurd (calcChecksum_eq_none_iff.mp hValue)
        hNonempty
  | some checksum =>
      have hNe : checksum ≠ 0 := by
        rintro rfl
        exact hChecksum hValue
      unfold fromBytes
      rw [hValue]
      simp [hNe]

/- What is shorter than a header is rejected. -/
theorem fromBytes_of_short
    {bytes : List UInt8}
    (hNonempty : bytes ≠ [])
    (hShort : bytes.length < 12) :
    fromBytes bytes = some none := by
  by_cases hChecksum : calcChecksum bytes = some 0
  · unfold fromBytes
    rw [hChecksum]
    simp [hShort]
  · exact fromBytes_of_checksum hNonempty hChecksum

/- The decoder on a datagram that verifies, by its parts. -/
theorem fromBytes_header
    {magicN magicK version0 version1 : UInt8}
    {checksum0 checksum1 kind reserved : UInt8}
    {seq0 seq1 seq2 seq3 : UInt8}
    {tail : List UInt8}
    (hChecksum :
      calcChecksum
        (magicN :: magicK :: version0 :: version1 ::
          checksum0 :: checksum1 :: kind :: reserved ::
          seq0 :: seq1 :: seq2 :: seq3 :: tail) =
        some 0) :
    fromBytes
        (magicN :: magicK :: version0 :: version1 ::
          checksum0 :: checksum1 :: kind :: reserved ::
          seq0 :: seq1 :: seq2 :: seq3 :: tail) =
      if magicN ≠ 78 ∨ magicK ≠ 75 then
        some none
      else if reserved ≠ 0 then
        some none
      else
        (decodeTail tail).map fun payload =>
          payload.map fun payload =>
            ⟨word version0 version1, PacketKind.ofByte kind,
              joinWords (word seq0 seq1) (word seq2 seq3),
              payload⟩ := by
  unfold fromBytes
  rw [hChecksum]
  by_cases hMagic : magicN ≠ 78 ∨ magicK ≠ 75
  · simp [hMagic]
  by_cases hReserved : reserved ≠ 0
  · simp [hMagic, hReserved]
  obtain ⟨rfl, rfl⟩ : magicN = 78 ∧ magicK = 75 := by
    simpa using hMagic
  obtain rfl : reserved = 0 := not_not.mp hReserved
  match tail with
  | [] =>
      simp [decodeTail, joinWords]
  | [low] =>
      simp [decodeTail, Seq.seq]
  | low :: high :: rest =>
      by_cases hRest : rest.length < word low high
      · simp [decodeTail, hRest]
        omega
      · simp [decodeTail, hRest, joinWords]
        rw [if_neg (by omega), if_neg (by omega)]

end Packet

end Nkurdt

------------------------------------------------------------
-- Reads Outside the Datagram
------------------------------------------------------------

namespace Nkurdt

namespace Packet

/-
  A datagram that passes every check in front of the size
  field and ends in the middle of that field.
-/
structure EndsInSize (bytes : List UInt8) : Prop where
  length_eq : bytes.length = 13
  verifies : wordSum bytes % 65535 = 0
  magic : bytes[0]? = some 78 ∧ bytes[1]? = some 75
  reserved : bytes[7]? = some 0

theorem fromBytes_eq_none_iff
    (bytes : List UInt8) :
    fromBytes bytes = none ↔
      bytes = [] ∨ EndsInSize bytes := by
  by_cases hEmpty : bytes = []
  · subst hEmpty
    have hChecksum := calcChecksum_eq_none_iff.mpr
      (rfl : ([] : List UInt8) = [])
    unfold fromBytes
    simp [hChecksum]
  have hNonempty := List.length_pos_iff.mpr hEmpty
  by_cases hShort : bytes.length < 12
  · rw [fromBytes_of_short hEmpty hShort]
    constructor
    · intro hNone
      cases hNone
    · rintro (hNil | hEnds)
      · exact absurd hNil hEmpty
      · have hLength := hEnds.length_eq
        omega
  obtain ⟨magicN, magicK, version0, version1, checksum0,
    checksum1, kind, reserved, seq0, seq1, seq2, seq3, tail,
    rfl⟩ := exists_header (by omega : 12 ≤ bytes.length)
  constructor
  · intro hNone
    right
    by_cases hChecksum : calcChecksum
        (magicN :: magicK :: version0 :: version1 ::
          checksum0 :: checksum1 :: kind :: reserved ::
          seq0 :: seq1 :: seq2 :: seq3 :: tail) = some 0
    · rw [fromBytes_header hChecksum] at hNone
      split_ifs at hNone with hMagic hReserved
      rw [Option.map_eq_none_iff,
        decodeTail_eq_none_iff] at hNone
      obtain ⟨rfl, rfl⟩ : magicN = 78 ∧ magicK = 75 := by
        simpa using hMagic
      obtain rfl : reserved = 0 := not_not.mp hReserved
      have hLength :
          (78 :: 75 :: version0 :: version1 ::
            checksum0 :: checksum1 :: kind :: 0 ::
            seq0 :: seq1 :: seq2 :: seq3 ::
            tail).length = 13 := by
        simp [hNone]
      have hSum :=
        (calcChecksum_eq_zero_iff hNonempty
          (by omega)).mp hChecksum
      exact ⟨hLength, hSum.2, ⟨rfl, rfl⟩, rfl⟩
    · rw [fromBytes_of_checksum hEmpty hChecksum] at hNone
      cases hNone
  · rintro (hNil | hEnds)
    · exact absurd hNil hEmpty
    · have hLength := hEnds.length_eq
      have hPositive :
          0 < wordSum
            (magicN :: magicK :: version0 :: version1 ::
              checksum0 :: checksum1 :: kind :: reserved ::
              seq0 :: seq1 :: seq2 :: seq3 :: tail) := by
        have hMagic := hEnds.magic.1
        simp only [List.getElem?_cons_zero,
          Option.some.injEq] at hMagic
        rw [hMagic]
        simp only [wordSum]
        have hValue : (78 : UInt8).toNat = 78 := rfl
        omega
      have hChecksum :=
        (calcChecksum_eq_zero_iff hNonempty
          (by omega)).mpr ⟨hPositive, hEnds.verifies⟩
      have hMagic :
          ¬ (magicN ≠ 78 ∨ magicK ≠ 75) := by
        simpa using hEnds.magic
      have hReserved : ¬ reserved ≠ 0 := by
        simpa using hEnds.reserved
      have hTail : tail.length = 1 := by
        simpa using hLength
      rw [fromBytes_header hChecksum, if_neg hMagic,
        if_neg hReserved, Option.map_eq_none_iff]
      exact decodeTail_eq_none_iff.mpr hTail

/-
  The checksum and the decoder stay inside the datagram,
  whatever its length and its content, unless it is empty or
  ends in the middle of its size field.
-/
theorem reads_inside_iff
    (bytes : List UInt8) :
    (calcChecksum bytes ≠ none ∧
        fromBytes bytes ≠ none) ↔
      bytes ≠ [] ∧ ¬ EndsInSize bytes := by
  rw [Ne, Ne, calcChecksum_eq_none_iff,
    fromBytes_eq_none_iff]
  tauto

/- An empty datagram, and thirteen bytes that verify. -/
theorem reads_outside :
    calcChecksum [] = none ∧
      fromBytes [78, 75, 1, 0, 169, 180, 7, 0, 0, 0, 0, 0,
        0] = none ∧
      ¬ ∀ bytes : List UInt8,
        calcChecksum bytes ≠ none ∧
          fromBytes bytes ≠ none := by
  refine ⟨by decide +kernel, by decide +kernel, ?_⟩
  intro hInside
  exact (hInside []).1 (by decide +kernel)

end Packet

end Nkurdt

------------------------------------------------------------
-- Accepted Datagrams
------------------------------------------------------------

namespace Nkurdt

namespace Packet

/-
  What may stand behind the encoding in an accepted datagram:
  nothing, an explicit zero size with anything behind it, or
  bytes behind the payload.
-/
inductive Slack (packet : Packet) : List UInt8 → Prop where
| exact :
    Slack packet []
| zeroSize (rest : List UInt8) :
    packet.payload = [] → Slack packet (0 :: 0 :: rest)
| trailing (byte : UInt8) (rest : List UInt8) :
    packet.payload ≠ [] → Slack packet (byte :: rest)

theorem word_eq_zero
    {low high : UInt8}
    (hZero : word low high = 0) :
    low = 0 ∧ high = 0 := by
  rw [word_eq] at hZero
  constructor
  · apply UInt8.toNat_inj.mp
    rw [UInt8.toNat_zero]
    omega
  · apply UInt8.toNat_inj.mp
    rw [UInt8.toNat_zero]
    omega

/- The tail that the decoder takes a payload from. -/
theorem tail_of_decodeTail
    {packet : Packet}
    {tail : List UInt8}
    (hPayload : decodeTail tail = some (some packet.payload)) :
    packet.payload.length ≤ 65535 ∧
      ∃ slack,
        Slack packet slack ∧
        tail = packet.tailBytes ++ slack := by
  match tail, hPayload with
  | [], hPayload =>
      have hNil : [] = packet.payload := by
        simpa [decodeTail] using hPayload
      refine ⟨by simp [← hNil], [], .exact, ?_⟩
      simp [tailBytes, ← hNil]
  | low :: high :: rest, hPayload =>
      have hSize := word_lt low high
      simp only [decodeTail] at hPayload
      split_ifs at hPayload with hRest
      · cases hPayload
      have hTake :
          rest.take (word low high) = packet.payload := by
        simpa using hPayload
      have hLength :
          packet.payload.length = word low high := by
        rw [← hTake, List.length_take]
        omega
      refine ⟨by omega, ?_⟩
      by_cases hZero : word low high = 0
      · have hNil : packet.payload = [] :=
          List.eq_nil_of_length_eq_zero (by omega)
        obtain ⟨rfl, rfl⟩ := word_eq_zero hZero
        refine ⟨_, .zeroSize rest hNil, ?_⟩
        simp [tailBytes, hNil]
      · have hSome : packet.payload ≠ [] := by
          intro hNil
          rw [hNil, List.length_nil] at hLength
          omega
        have hBytes := byteAt_word low high
        have hTail :
            low :: high :: rest =
              packet.tailBytes ++
                rest.drop (word low high) := by
          unfold tailBytes
          rw [if_pos (by omega), hLength, hBytes.1,
            hBytes.2, List.cons_append, List.cons_append,
            ← hTake, List.take_append_drop]
        refine ⟨rest.drop (word low high), ?_, hTail⟩
        cases rest.drop (word low high) with
        | nil => exact .exact
        | cons byte rest => exact .trailing byte rest hSome

/-
  An accepted datagram is the encoding of the packet with
  some checksum field, followed by slack.
-/
theorem layout_of_fromBytes
    {bytes : List UInt8}
    {packet : Packet}
    (hDecoded : fromBytes bytes = some (some packet)) :
    packet.InRange ∧
      calcChecksum bytes = some 0 ∧
      ∃ low high slack,
        Slack packet slack ∧
        bytes = packet.layout low high ++ slack := by
  have hEmpty : bytes ≠ [] := by
    rintro rfl
    have hNone :=
      (fromBytes_eq_none_iff []).mpr (Or.inl rfl)
    rw [hNone] at hDecoded
    cases hDecoded
  have hLength : 12 ≤ bytes.length := by
    by_contra hShort
    rw [fromBytes_of_short hEmpty (by omega)] at hDecoded
    cases hDecoded
  have hChecksum : calcChecksum bytes = some 0 := by
    by_contra hBad
    rw [fromBytes_of_checksum hEmpty hBad] at hDecoded
    cases hDecoded
  obtain ⟨magicN, magicK, version0, version1, checksum0,
    checksum1, kind, reserved, seq0, seq1, seq2, seq3, tail,
    rfl⟩ := exists_header hLength
  rw [fromBytes_header hChecksum] at hDecoded
  split_ifs at hDecoded with hMagic hReserved
  · cases hDecoded
  · cases hDecoded
  obtain ⟨rfl, rfl⟩ : magicN = 78 ∧ magicK = 75 := by
    simpa using hMagic
  obtain rfl : reserved = 0 := not_not.mp hReserved
  obtain ⟨read, hRead, hRest⟩ :=
    Option.map_eq_some_iff.mp hDecoded
  obtain ⟨payload, rfl, rfl⟩ :=
    Option.map_eq_some_iff.mp hRest
  have hVersion := byteAt_word version0 version1
  have hSeq := byteAt_joinWords seq0 seq1 seq2 seq3
  let packet : Packet :=
    ⟨word version0 version1, PacketKind.ofByte kind,
      joinWords (word seq0 seq1) (word seq2 seq3), payload⟩
  have hTaken :
      decodeTail tail = some (some packet.payload) :=
    hRead
  obtain ⟨hPayload, slack, hSlack, hTail⟩ :=
    tail_of_decodeTail hTaken
  refine ⟨⟨word_lt version0 version1, hSeq.1, hPayload⟩,
    hChecksum, checksum0, checksum1, slack, hSlack, ?_⟩
  rw [hTail]
  simp only [layout, hVersion, hSeq, List.cons_append,
    PacketKind.toByte_ofByte, packet]

/- Only the checksum field depends on the checksum. -/
theorem getElem?_layout
    (packet : Packet)
    (low high low' high' : UInt8)
    {i : Nat}
    (hLow : i ≠ 4)
    (hHigh : i ≠ 5) :
    (packet.layout low high)[i]? =
      (packet.layout low' high')[i]? := by
  match i, hLow, hHigh with
  | 0, _, _ => rfl
  | 1, _, _ => rfl
  | 2, _, _ => rfl
  | 3, _, _ => rfl
  | i + 6, _, _ => rfl

/-
  The two checksum fields that verify: the one the encoder
  writes, and `0xFFFF` where it writes zero.
-/
theorem layout_of_calcChecksum
    {packet : Packet}
    (hRange : packet.InRange)
    {low high : UInt8}
    (hChecksum :
      calcChecksum (packet.layout low high) = some 0) :
    packet.toBytes = packet.layout low high ∨
      low = 0xFF ∧ high = 0xFF ∧
        packet.toBytes = packet.layout 0 0 := by
  have hLength := length_layout hRange low high
  have hBlank := length_layout hRange 0 0
  have hSum :=
    (calcChecksum_eq_zero_iff (by omega) (by omega)).mp
      hChecksum
  rw [wordSum_layout] at hSum
  have hPositive : 0 < wordSum (packet.layout 0 0) := by
    simp only [layout, wordSum]
    have hValue : (78 : UInt8).toNat = 78 := rfl
    omega
  have hLow := low.toNat_lt
  have hHigh := high.toNat_lt
  rw [toBytes_eq_layout, blankBytes_eq_layout,
    calcChecksum_of_length_pos (by omega) (by omega),
    Option.getD_some]
  generalize wordSum (packet.layout 0 0) = sum at *
  have hFold :
      onesFold sum = (sum - 1) % 65535 + 1 :=
    if_neg (by omega)
  rw [hFold]
  by_cases hOnes :
      low.toNat + 256 * high.toNat = 65535
  · right
    refine ⟨?_, ?_, ?_⟩
    · apply UInt8.toNat_inj.mp
      have hValue : (0xFF : UInt8).toNat = 255 := rfl
      omega
    · apply UInt8.toNat_inj.mp
      have hValue : (0xFF : UInt8).toNat = 255 := rfl
      omega
    · have hZero :
          65535 - ((sum - 1) % 65535 + 1) = 0 := by
        omega
      rw [hZero]
      rfl
  · left
    have hField :
        65535 - ((sum - 1) % 65535 + 1) =
          low.toNat + 256 * high.toNat := by
      omega
    rw [hField, ← word_eq, (byteAt_word low high).1,
      (byteAt_word low high).2]

/-
  The ways in which an accepted datagram differs from the
  encoding of the packet it is read as.
-/
inductive Denormal
    (packet : Packet)
    (bytes : List UInt8) : Prop where
| trailing :
    14 + packet.payload.length < bytes.length →
    Denormal packet bytes
| zeroSize :
    packet.payload = [] →
    bytes[12]? = some 0 → bytes[13]? = some 0 →
    Denormal packet bytes
| checksum :
    packet.toBytes[4]? = some 0 →
    packet.toBytes[5]? = some 0 →
    bytes = (packet.toBytes.set 4 0xFF).set 5 0xFF →
    Denormal packet bytes

theorem length_layout_eq
    (packet : Packet)
    (low high low' high' : UInt8) :
    (packet.layout low high).length =
      (packet.layout low' high').length := by
  simp only [layout, List.length_cons]

/- Without a payload the encoding is the header alone. -/
theorem length_layout_of_nil
    {packet : Packet}
    (hNil : packet.payload = [])
    (low high : UInt8) :
    (packet.layout low high).length = 12 := by
  simp [layout, tailBytes, hNil]

theorem length_layout_of_ne_nil
    {packet : Packet}
    (hRange : packet.InRange)
    (hSome : packet.payload ≠ [])
    (low high : UInt8) :
    (packet.layout low high).length =
      14 + packet.payload.length := by
  have hPositive := List.length_pos_iff.mpr hSome
  have hPayload := hRange.payload_le
  simp only [layout, tailBytes, List.length_cons]
  rw [if_pos (by omega)]
  simp only [List.length_cons]
  omega

/- An accepted datagram is the encoding or a denormal one. -/
theorem denormal_of_fromBytes
    {bytes : List UInt8}
    {packet : Packet}
    (hDecoded : fromBytes bytes = some (some packet))
    (hNe : bytes ≠ packet.toBytes) :
    Denormal packet bytes := by
  obtain ⟨hRange, hChecksum, low, high, slack, hSlack, hBytes⟩ :=
    layout_of_fromBytes hDecoded
  subst hBytes
  cases hSlack with
  | exact =>
      rw [List.append_nil] at hChecksum hNe ⊢
      rcases layout_of_calcChecksum hRange hChecksum with
        hEncoded | ⟨rfl, rfl, hEncoded⟩
      · exact absurd hEncoded.symm hNe
      · apply Denormal.checksum
        · rw [hEncoded]
          rfl
        · rw [hEncoded]
          rfl
        · rw [hEncoded]
          rfl
  | zeroSize rest hNil =>
      have hLength := length_layout_of_nil hNil low high
      apply Denormal.zeroSize hNil
      · rw [List.getElem?_append_right (by omega), hLength]
        rfl
      · rw [List.getElem?_append_right (by omega), hLength]
        rfl
  | trailing byte rest hSome =>
      have hLength :=
        length_layout_of_ne_nil hRange hSome low high
      apply Denormal.trailing
      rw [List.length_append, List.length_cons]
      omega

/-
  Decoding and encoding again normalises an accepted
  datagram: the result is no longer, differs from it at most
  in the checksum field, decodes to the same packet, and is
  the datagram itself when the lengths agree and the field
  is not `0xFFFF`. What is accepted besides encodings has
  trailing bytes, an explicit zero size, or the checksum
  `0xFFFF` for zero.
-/
theorem normalises
    {bytes : List UInt8}
    {packet : Packet}
    (hDecoded : fromBytes bytes = some (some packet)) :
    packet.payload.length ≤ 65535 ∧
      packet.toBytes.length ≤ bytes.length ∧
      (∀ i, i < packet.toBytes.length → i ≠ 4 → i ≠ 5 →
        packet.toBytes[i]? = bytes[i]?) ∧
      fromBytes packet.toBytes = some (some packet) ∧
      (packet.toBytes.length = bytes.length →
        ¬ (bytes[4]? = some 0xFF ∧ bytes[5]? = some 0xFF) →
        packet.toBytes = bytes) ∧
      ((∀ sent : Packet, sent.InRange →
          bytes ≠ sent.toBytes) →
        Denormal packet bytes) := by
  obtain ⟨hRange, hChecksum, low, high, slack, hSlack, hBytes⟩ :=
    layout_of_fromBytes hDecoded
  have hEncoded := toBytes_eq_layout packet
  have hLength :
      packet.toBytes.length =
        (packet.layout low high).length := by
    rw [hEncoded]
    exact length_layout_eq packet _ _ low high
  refine ⟨hRange.payload_le, ?_, ?_,
    fromBytes_toBytes hRange, ?_, ?_⟩
  · rw [hLength, hBytes, List.length_append]
    omega
  · intro i hInside hLow hHigh
    rw [hBytes,
      List.getElem?_append_left (by omega), hEncoded]
    exact getElem?_layout packet _ _ low high hLow hHigh
  · intro hSame hField
    have hSlackNil : slack = [] := by
      rw [hBytes, List.length_append, hLength] at hSame
      exact List.eq_nil_of_length_eq_zero (by omega)
    rw [hSlackNil, List.append_nil] at hBytes
    rw [hBytes] at hChecksum
    rcases layout_of_calcChecksum hRange hChecksum with
      hEq | ⟨rfl, rfl, hZero⟩
    · rw [hEq, hBytes]
    · rw [hBytes] at hField
      exact absurd ⟨rfl, rfl⟩ hField
  · intro hOutside
    exact denormal_of_fromBytes hDecoded
      (hOutside packet hRange)

/- A connection request with an explicit zero size. -/
theorem normalises_zeroSize :
    fromBytes [78, 75, 1, 0, 169, 180, 7, 0, 0, 0, 0, 0, 0,
        0] = some (some ⟨1, .connReq, 0, []⟩) ∧
      (⟨1, .connReq, 0, []⟩ : Packet).toBytes.length ≤ 14 ∧
      fromBytes (⟨1, .connReq, 0, []⟩ : Packet).toBytes =
        some (some ⟨1, .connReq, 0, []⟩) := by
  have hDecoded :
      fromBytes [78, 75, 1, 0, 169, 180, 7, 0, 0, 0, 0, 0,
        0, 0] = some (some ⟨1, .connReq, 0, []⟩) := by
    decide +kernel
  have hNormal := normalises hDecoded
  exact ⟨hDecoded, hNormal.2.1, hNormal.2.2.2.1⟩

end Packet

end Nkurdt
