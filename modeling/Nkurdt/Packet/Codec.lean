import Mathlib

/-
  Sequence numbers, packet kinds, the checksum and the
  datagram codec.

  A read outside a byte vector is undefined behaviour in the
  program. Functions that index a vector therefore return an
  `Option` whose `none` says that such a read took place; an
  ordinary rejection by the decoder is `some none`.

  Main declarations:
    * `SequenceNumber.update`
    * `PacketKind`
    * `getAckKind`
    * `calcChecksum`
    * `Packet`
    * `Packet.toBytes`
    * `Packet.fromBytes`
-/

------------------------------------------------------------
-- Sequence Numbers
------------------------------------------------------------

namespace Nkurdt

/-
  A sequence number is the value of a `uint32_t`, held as a
  natural number below `2 ^ 32`. It is compared by plain
  unsigned order, and its arithmetic is modulo `2 ^ 32`.
-/
namespace SequenceNumber

/- `operator+`. -/
def add (a b : Nat) : Nat :=
  (a + b) % 2 ^ 32

/- `operator-`. -/
def sub (a b : Nat) : Nat :=
  (a + (2 ^ 32 - b % 2 ^ 32)) % 2 ^ 32

/- `update`: the next sequence number. -/
def update (a : Nat) : Nat :=
  (a + 1) % 2 ^ 32

theorem update_of_lt
    {a : Nat}
    (hBound : a + 1 < 2 ^ 32) :
    update a = a + 1 :=
  Nat.mod_eq_of_lt hBound

theorem add_of_lt
    {a b : Nat}
    (hBound : a + b < 2 ^ 32) :
    add a b = a + b :=
  Nat.mod_eq_of_lt hBound

theorem sub_of_le
    {a b : Nat}
    (hLe : b ≤ a)
    (hBound : a < 2 ^ 32) :
    sub a b = a - b := by
  unfold sub
  omega

end SequenceNumber

end Nkurdt

------------------------------------------------------------
-- Packet Kinds
------------------------------------------------------------

namespace Nkurdt

/-
  The kind of a packet. The enumeration has a `uint8_t`
  underneath, so a decoded kind can be any byte; bytes above
  the last enumerator are kept as they are.
-/
inductive PacketKind where
| none
| data
| dataAck
| dataPush
| dataPushAck
| dataStop
| dataStopAck
| connReq
| connAck
| disconnReq
| disconnAck
| unnamed (byte : UInt8) (hByte : 10 < byte.toNat)
deriving DecidableEq

namespace PacketKind

/- The value of an enumerator. -/
def toByte : PacketKind → UInt8
| .none => 0
| .data => 1
| .dataAck => 2
| .dataPush => 3
| .dataPushAck => 4
| .dataStop => 5
| .dataStopAck => 6
| .connReq => 7
| .connAck => 8
| .disconnReq => 9
| .disconnAck => 10
| .unnamed byte _ => byte

/- `static_cast<PacketKind>`. -/
def ofByte (byte : UInt8) : PacketKind :=
  if hByte : 10 < byte.toNat then
    .unnamed byte hByte
  else
    match byte.toNat with
    | 0 => .none
    | 1 => .data
    | 2 => .dataAck
    | 3 => .dataPush
    | 4 => .dataPushAck
    | 5 => .dataStop
    | 6 => .dataStopAck
    | 7 => .connReq
    | 8 => .connAck
    | 9 => .disconnReq
    | _ => .disconnAck

@[simp] theorem ofByte_toByte
    (kind : PacketKind) :
    ofByte kind.toByte = kind := by
  cases kind with
  | unnamed byte hByte =>
      simp [toByte, ofByte, hByte]
  | _ => rfl

/- A decoded kind keeps its byte. -/
@[simp] theorem toByte_ofByte
    (byte : UInt8) :
    (ofByte byte).toByte = byte := by
  unfold ofByte
  split_ifs with hByte
  · rfl
  · have hBound : byte.toNat ≤ 10 := by omega
    apply UInt8.toNat_inj.mp
    generalize byte.toNat = value at hBound ⊢
    interval_cases value <;> rfl

/- The five kinds that acknowledge something. -/
def isAck : PacketKind → Bool
| .dataAck | .dataPushAck | .dataStopAck | .connAck
| .disconnAck => true
| _ => false

end PacketKind

/- The kind of the acknowledgement of a request kind. -/
def getAckKind (kind : PacketKind) : Option PacketKind :=
  if kind = .data then
    some .dataAck
  else if kind = .dataPush then
    some .dataPushAck
  else if kind = .dataStop then
    some .dataStopAck
  else if kind = .connReq then
    some .connAck
  else if kind = .disconnReq then
    some .disconnAck
  else
    none

/- What `getAckKind` returns is an acknowledgement kind. -/
theorem isAck_of_getAckKind
    {kind ackKind : PacketKind}
    (hAck : getAckKind kind = some ackKind) :
    ackKind.isAck = true := by
  unfold getAckKind at hAck
  split_ifs at hAck <;> cases hAck <;> rfl

end Nkurdt

------------------------------------------------------------
-- Checksum
------------------------------------------------------------

namespace Nkurdt

/- A little-endian 16-bit word. -/
def word (low high : UInt8) : Nat :=
  low.toNat ||| (high.toNat <<< 8)

/-
  The word loop of `calc_checksum`, `rounds` iterations from
  index `i`, with the `uint32_t` accumulator `sum`.
-/
def sumWords (bytes : List UInt8) :
    Nat → Nat → Nat → Option Nat
| 0, _, sum => some sum
| rounds + 1, i, sum => do
    let low ← bytes[i]?
    let high ← bytes[i + 1]?
    sumWords bytes rounds (i + 2)
      ((sum + word low high) % 2 ^ 32)

/-
  The carry loop of `calc_checksum`; `none` says that it has
  not ended after the given number of iterations.
-/
def foldCarries : Nat → Nat → Option Nat
| rounds, sum =>
    if sum >>> 16 = 0 then
      some sum
    else
      match rounds with
      | 0 => none
      | rounds + 1 =>
          foldCarries rounds
            ((sum &&& 0xFFFF) + (sum >>> 16))

/-
  `calc_checksum`. The bound `size() - 1` of the word loop
  is a `size_t`: it wraps on the empty vector, so there the
  loop is entered and its first read is out of range.
-/
@[irreducible] def calcChecksum
    (bytes : List UInt8) : Option Nat := do
  let rounds :=
    if bytes.length = 0 then 1 else bytes.length / 2
  let sum ← sumWords bytes rounds 0 0
  let sum ←
    if bytes.length % 2 = 1 then do
      let last ← bytes[bytes.length - 1]?
      some ((sum + last.toNat) % 2 ^ 32)
    else
      some sum
  let sum ← foldCarries 2 sum
  some ((2 ^ 32 - 1 - sum) % 2 ^ 16)

end Nkurdt

------------------------------------------------------------
-- Packets
------------------------------------------------------------

namespace Nkurdt

/- The protocol version of every packet the program sends. -/
def version : Nat :=
  1

/- The largest datagram, and the payload it leaves room for. -/
def maxPacketSize : Nat :=
  8192

def maxPayloadSize : Nat :=
  maxPacketSize - 14

/- A packet in the network. -/
structure Packet where
  version : Nat
  kind : PacketKind
  seq : Nat
  payload : List UInt8
deriving DecidableEq

namespace Packet

/- `is_ack`. -/
def isAck (packet : Packet) : Bool :=
  packet.kind.isAck

/- The byte at bit `shift` of a number. -/
def byteAt (n shift : Nat) : UInt8 :=
  UInt8.ofNat ((n >>> shift) &&& 0xFF)

/- The encoding with the checksum left blank. -/
def blankBytes (packet : Packet) : List UInt8 :=
  let header : List UInt8 :=
    [78, 75,
      byteAt packet.version 0, byteAt packet.version 8,
      0, 0,
      packet.kind.toByte, 0,
      byteAt packet.seq 0, byteAt packet.seq 8,
      byteAt packet.seq 16, byteAt packet.seq 24]
  if 0 < packet.payload.length ∧
      packet.payload.length ≤ 0xFFFF then
    header ++
      [byteAt packet.payload.length 0,
        byteAt packet.payload.length 8] ++
      packet.payload
  else
    header

/- Write the checksum field, little endian. -/
def setChecksum
    (bytes : List UInt8)
    (checksum : Nat) : List UInt8 :=
  (bytes.set 4 (byteAt checksum 0)).set 5
    (byteAt checksum 8)

/-
  `to_bytes`. The blank encoding is never empty, so its
  checksum reads no index out of range
  (`calcChecksum_of_length_pos`).
-/
@[irreducible] def toBytes (packet : Packet) : List UInt8 :=
  setChecksum packet.blankBytes
    ((calcChecksum packet.blankBytes).getD 0)

/-
  `from_bytes`: `none` when an index outside the vector is
  read, `some none` when the datagram is rejected.
-/
@[irreducible] def fromBytes (bytes : List UInt8) :
    Option (Option Packet) := do
  let checksum ← calcChecksum bytes
  if checksum ≠ 0 then
    some none
  else if bytes.length < 12 then
    some none
  else do
    let magicN ← bytes[0]?
    let magicK ← bytes[1]?
    if magicN ≠ 78 ∨ magicK ≠ 75 then
      some none
    else do
      let version ← word <$> bytes[2]? <*> bytes[3]?
      let kind ← PacketKind.ofByte <$> bytes[6]?
      let reserved ← bytes[7]?
      if reserved ≠ 0 then
        some none
      else do
        let low ← word <$> bytes[8]? <*> bytes[9]?
        let high ← word <$> bytes[10]? <*> bytes[11]?
        let seq := low ||| (high <<< 16)
        if 12 < bytes.length then do
          let payloadSize ←
            word <$> bytes[12]? <*> bytes[13]?
          if bytes.length < 14 + payloadSize then
            some none
          else
            let payload :=
              (bytes.drop 14).take payloadSize
            some (some ⟨version, kind, seq, payload⟩)
        else
          some (some ⟨version, kind, seq, []⟩)

end Packet

end Nkurdt
