import Nkurdt.Packet.Checksum

/-
  The decoder inverts the encoder.

  Main declarations:
    * `Packet.fromBytes_toBytes`
    * `Packet.roundTrip`
-/

------------------------------------------------------------
-- Encoding and Decoding
------------------------------------------------------------

namespace Nkurdt

namespace Packet

theorem byteAt_toNat
    (n shift : Nat) :
    (byteAt n shift).toNat = n / 2 ^ shift % 256 := by
  have hMask :
      n >>> shift &&& 0xFF = n / 2 ^ shift % 256 := by
    rw [Nat.shiftRight_eq_div_pow]
    exact Nat.and_two_pow_sub_one_eq_mod _ 8
  unfold byteAt
  rw [hMask, UInt8.toNat_ofNat']
  omega

/- Two little-endian bytes carry a 16-bit number. -/
theorem word_byteAt
    {n : Nat}
    (shift : Nat)
    (hBound : n / 2 ^ shift < 2 ^ 16) :
    word (byteAt n shift) (byteAt n (shift + 8)) =
      n / 2 ^ shift := by
  rw [word_eq, byteAt_toNat, byteAt_toNat, Nat.pow_add,
    ← Nat.div_div_eq_div_mul]
  generalize n / 2 ^ shift = m at *
  omega

/- Joining two 16-bit halves. -/
theorem lor_shiftLeft_eq
    {low : Nat}
    (high : Nat)
    (hLow : low < 2 ^ 16) :
    low ||| (high <<< 16) = low + 65536 * high := by
  rw [Nat.lor_comm,
    ← Nat.shiftLeft_add_eq_or_of_lt hLow,
    Nat.shiftLeft_eq]
  omega

/- The value ranges of the fields of a packet. -/
structure InRange (packet : Packet) : Prop where
  version_lt : packet.version < 2 ^ 16
  seq_lt : packet.seq < 2 ^ 32
  payload_le : packet.payload.length ≤ 65535

/- The part of the encoding behind the sequence number. -/
def tailBytes (packet : Packet) : List UInt8 :=
  if 0 < packet.payload.length ∧
      packet.payload.length ≤ 0xFFFF then
    byteAt packet.payload.length 0 ::
      byteAt packet.payload.length 8 :: packet.payload
  else
    []

/- The encoding with a given checksum field. -/
def layout
    (packet : Packet)
    (low high : UInt8) : List UInt8 :=
  78 :: 75 :: byteAt packet.version 0 ::
    byteAt packet.version 8 :: low :: high ::
    packet.kind.toByte :: 0 ::
    byteAt packet.seq 0 :: byteAt packet.seq 8 ::
    byteAt packet.seq 16 :: byteAt packet.seq 24 ::
    packet.tailBytes

theorem blankBytes_eq_layout
    (packet : Packet) :
    packet.blankBytes = packet.layout 0 0 := by
  unfold blankBytes layout tailBytes
  split_ifs <;> simp

theorem toBytes_eq_layout
    (packet : Packet) :
    packet.toBytes =
      packet.layout
        (byteAt ((calcChecksum packet.blankBytes).getD 0) 0)
        (byteAt ((calcChecksum packet.blankBytes).getD 0)
          8) := by
  unfold toBytes
  generalize (calcChecksum packet.blankBytes).getD 0 = c
  rw [blankBytes_eq_layout]
  rfl

theorem length_layout
    {packet : Packet}
    (hRange : packet.InRange)
    (low high : UInt8) :
    12 ≤ (packet.layout low high).length ∧
      (packet.layout low high).length ≤ 65549 := by
  have hPayload := hRange.payload_le
  simp only [layout, List.length_cons]
  unfold tailBytes
  split_ifs with hSome
  · simp only [List.length_cons]
    omega
  · simp

theorem wordSum_layout
    (packet : Packet)
    (low high : UInt8) :
    wordSum (packet.layout low high) =
      wordSum (packet.layout 0 0) +
        (low.toNat + 256 * high.toNat) := by
  simp only [layout, wordSum, UInt8.toNat_zero]
  omega

/- The checksum of an encoded packet verifies. -/
theorem calcChecksum_toBytes
    {packet : Packet}
    (hRange : packet.InRange) :
    calcChecksum packet.toBytes = some 0 := by
  have hBlank :
      calcChecksum packet.blankBytes =
        some (65535 -
          onesFold (wordSum (packet.layout 0 0))) := by
    have hLength := length_layout hRange 0 0
    rw [blankBytes_eq_layout]
    exact calcChecksum_of_length_pos (by omega) (by omega)
  rw [toBytes_eq_layout, hBlank, Option.getD_some]
  set checksum :=
    65535 - onesFold (wordSum (packet.layout 0 0))
    with hChecksum
  have hLength :=
    length_layout hRange (byteAt checksum 0)
      (byteAt checksum 8)
  have hField :
      (byteAt checksum 0).toNat +
          256 * (byteAt checksum 8).toNat = checksum := by
    rw [byteAt_toNat, byteAt_toNat]
    omega
  rw [calcChecksum_of_length_pos (by omega) (by omega),
    wordSum_layout, hField, hChecksum, onesFold_complement]

/- Reading the fields of a laid out packet back. -/
theorem fromBytes_layout
    {packet : Packet}
    (hRange : packet.InRange)
    {low high : UInt8}
    (hChecksum :
      calcChecksum (packet.layout low high) = some 0) :
    fromBytes (packet.layout low high) =
      some (some packet) := by
  have hVersion :
      word (byteAt packet.version 0)
          (byteAt packet.version 8) = packet.version := by
    simpa using
      word_byteAt 0 (by simpa using hRange.version_lt)
  have hSeq := hRange.seq_lt
  have hLow :
      word (byteAt packet.seq 0) (byteAt packet.seq 8) =
        packet.seq % 2 ^ 16 := by
    rw [word_eq, byteAt_toNat, byteAt_toNat]
    omega
  have hHigh :
      word (byteAt packet.seq 16) (byteAt packet.seq 24) =
        packet.seq / 2 ^ 16 :=
    word_byteAt 16 (by omega)
  have hJoin :
      packet.seq % 2 ^ 16 |||
          ((packet.seq / 2 ^ 16) <<< 16) =
        packet.seq := by
    rw [lor_shiftLeft_eq _ (by omega)]
    omega
  have hLength := length_layout hRange low high
  unfold fromBytes
  rw [hChecksum]
  rw [if_neg (by omega : ¬ (packet.layout low high).length < 12)]
  simp only [Option.bind_eq_bind, Option.bind_some]
  simp only [layout, List.getElem?_cons_zero,
    List.getElem?_cons_succ, Option.bind_some,
    Option.map_eq_map, Option.map_some, Option.seq_some,
    hVersion, hLow, hHigh, hJoin,
    PacketKind.ofByte_toByte]
  have hPayload := hRange.payload_le
  unfold tailBytes
  by_cases hSome : 0 < packet.payload.length
  · have hSize :
        word (byteAt packet.payload.length 0)
            (byteAt packet.payload.length 8) =
          packet.payload.length := by
      simpa using word_byteAt (n := packet.payload.length)
        0 (by simpa using by omega)
    simp [hSome, hPayload, hSize]
    omega
  · have hNil : packet.payload = [] :=
      List.eq_nil_of_length_eq_zero (by omega)
    rcases packet with ⟨version, kind, seq, payload⟩
    simp only at hNil
    simp [hNil]

/-
  Decoding inverts encoding: every packet whose fields are
  in range comes back as it was sent.
-/
theorem fromBytes_toBytes
    {packet : Packet}
    (hRange : packet.InRange) :
    fromBytes packet.toBytes = some (some packet) := by
  have hChecksum := calcChecksum_toBytes hRange
  rw [toBytes_eq_layout] at hChecksum ⊢
  exact fromBytes_layout hRange hChecksum

/- The packet that the program builds from field values. -/
def ofFields
    (version : UInt16)
    (kindByte : UInt8)
    (seq : UInt32)
    (payload : List UInt8) : Packet :=
  ⟨version.toNat, PacketKind.ofByte kindByte, seq.toNat,
    payload⟩

theorem inRange_ofFields
    (version : UInt16)
    (kindByte : UInt8)
    (seq : UInt32)
    {payload : List UInt8}
    (hPayload : payload.length ≤ 65535) :
    (ofFields version kindByte seq payload).InRange where
  version_lt := version.toNat_lt
  seq_lt := seq.toNat_lt
  payload_le := hPayload

/-
  Every packet survives its encoding: the checksum verifies,
  and the decoder returns the version, the kind byte, the
  number and the payload.
-/
theorem roundTrip
    (version : UInt16)
    (kindByte : UInt8)
    (seq : UInt32)
    (payload : List UInt8)
    (hPayload : payload.length ≤ 65535) :
    calcChecksum
        (ofFields version kindByte seq payload).toBytes =
        some 0 ∧
      ∃ decoded,
        fromBytes
            (ofFields version kindByte seq
              payload).toBytes =
          some (some decoded) ∧
        decoded.version = version.toNat ∧
        decoded.kind.toByte = kindByte ∧
        decoded.seq = seq.toNat ∧
        decoded.payload = payload := by
  have hRange :=
    inRange_ofFields version kindByte seq hPayload
  refine ⟨calcChecksum_toBytes hRange,
    ofFields version kindByte seq payload,
    fromBytes_toBytes hRange, rfl, ?_, rfl, rfl⟩
  exact PacketKind.toByte_ofByte kindByte

theorem roundTrip_three :
    ([1, 2, 3] : List UInt8).length ≤ 65535 ∧
      calcChecksum
          (ofFields 1 1 0xFFFFFFFF [1, 2, 3]).toBytes =
          some 0 ∧
      ∃ decoded,
        fromBytes
            (ofFields 1 1 0xFFFFFFFF [1, 2, 3]).toBytes =
          some (some decoded) ∧
        decoded.version = (1 : UInt16).toNat ∧
        decoded.kind.toByte = 1 ∧
        decoded.seq = (0xFFFFFFFF : UInt32).toNat ∧
        decoded.payload = [1, 2, 3] :=
  ⟨by decide,
    roundTrip 1 1 0xFFFFFFFF [1, 2, 3] (by decide)⟩

end Packet

end Nkurdt
