import Nkurdt.Library.Renaming
import Nkurdt.Packet.Accepted
import Nkurdt.Packet.Socket

/-
  Shifted sequence numbers.

  The shift by a base is a permutation of the sequence
  numbers that their modular arithmetic does not notice. The
  plain unsigned order notices it: it is kept between two
  numbers that both wrap around or both do not, and reversed
  between a number that does and one that does not.

  Main declarations:
    * `SequenceNumber.shift`
    * `SequenceNumber.SameSide`
    * `SequenceNumber.shift_lt_shift`
    * `SequenceNumber.sameSide_of_lt_iff`
    * `Packet.renumber`
    * `Packet.renumberBytes`
    * `RecvResult.renumber`
-/

------------------------------------------------------------
-- Shifts
------------------------------------------------------------

namespace Nkurdt

namespace SequenceNumber

/- The shift by a base; what is no number stays. -/
def shift (b : Nat) : Equiv.Perm Nat where
  toFun n := if n < 2 ^ 32 then (n + b) % 2 ^ 32 else n
  invFun n :=
    if n < 2 ^ 32 then
      (n + (2 ^ 32 - b % 2 ^ 32)) % 2 ^ 32
    else
      n
  left_inv := by
    intro n
    dsimp only
    split_ifs <;> omega
  right_inv := by
    intro n
    dsimp only
    split_ifs <;> omega

variable {b m n : Nat}

theorem shift_of_lt
    (hBound : n < 2 ^ 32) :
    shift b n = (n + b) % 2 ^ 32 :=
  if_pos hBound

theorem shift_lt
    (hBound : n < 2 ^ 32) :
    shift b n < 2 ^ 32 := by
  rw [shift_of_lt hBound]
  exact Nat.mod_lt _ (Nat.two_pow_pos 32)

theorem shift_zero
    (hBase : b < 2 ^ 32) :
    shift b 0 = b := by
  rw [shift_of_lt (Nat.two_pow_pos 32), Nat.zero_add,
    Nat.mod_eq_of_lt hBase]

theorem update_lt
    (n : Nat) :
    update n < 2 ^ 32 :=
  Nat.mod_lt _ (Nat.two_pow_pos 32)

theorem add_lt
    (m n : Nat) :
    add m n < 2 ^ 32 :=
  Nat.mod_lt _ (Nat.two_pow_pos 32)

/- The arithmetic of the numbers commutes with a shift. -/
theorem update_shift
    (hBound : n < 2 ^ 32) :
    update (shift b n) = shift b (update n) := by
  rw [shift_of_lt hBound, shift_of_lt (update_lt n)]
  unfold update
  omega

theorem add_shift
    (hBound : m < 2 ^ 32) :
    add (shift b m) n = shift b (add m n) := by
  rw [shift_of_lt hBound, shift_of_lt (add_lt m n)]
  unfold add
  omega

theorem sub_shift
    (hLeft : m < 2 ^ 32)
    (hRight : n < 2 ^ 32) :
    sub (shift b m) (shift b n) = sub m n := by
  rw [shift_of_lt hLeft, shift_of_lt hRight]
  unfold sub
  omega

/- Both numbers wrap around under the shift, or neither. -/
def SameSide (b m n : Nat) : Prop :=
  m + b < 2 ^ 32 ↔ n + b < 2 ^ 32

instance : Decidable (SameSide b m n) :=
  inferInstanceAs (Decidable (_ ↔ _))

theorem SameSide.symm
    (hSide : SameSide b m n) :
    SameSide b n m :=
  Iff.symm hSide

theorem SameSide.trans
    {k : Nat}
    (hLeft : SameSide b m n)
    (hRight : SameSide b n k) :
    SameSide b m k :=
  Iff.trans hLeft hRight

/- On one side the order is kept. -/
theorem shift_lt_shift
    (hBase : b < 2 ^ 32)
    (hSide : SameSide b m n) :
    shift b m < shift b n ↔ m < n := by
  unfold SameSide at hSide
  change
    (if m < 2 ^ 32 then (m + b) % 2 ^ 32 else m) <
        (if n < 2 ^ 32 then (n + b) % 2 ^ 32 else n) ↔
      m < n
  split_ifs <;> omega

/- Between the sides the order is reversed. -/
theorem sameSide_of_lt_iff
    (hLeft : m < 2 ^ 32)
    (hRight : n < 2 ^ 32)
    (hOrder : shift b m < shift b n ↔ m < n) :
    SameSide b m n := by
  rw [shift_of_lt hLeft, shift_of_lt hRight] at hOrder
  unfold SameSide
  omega

/- The numbers between two bounds on one side. -/
theorem map_shift_range'
    (hBase : b < 2 ^ 32)
    (hLeft : m < 2 ^ 32)
    (hRight : n < 2 ^ 32)
    (hSide : SameSide b m n) :
    (List.range' m (n - m)).map (shift b) =
      List.range' (shift b m) (shift b n - shift b m) := by
  have hLength :
      shift b n - shift b m = n - m := by
    have hOrder :=
      shift_lt_shift hBase hSide
    rw [shift_of_lt hLeft, shift_of_lt hRight] at hOrder ⊢
    unfold SameSide at hSide
    omega
  rw [hLength]
  apply List.ext_getElem
  · simp
  · intro i hLow hHigh
    simp only [List.length_map, List.length_range'] at hLow
    simp only [List.getElem_map, List.getElem_range']
    rw [shift_of_lt hLeft, shift_of_lt (by omega)]
    unfold SameSide at hSide
    omega

end SequenceNumber

end Nkurdt

------------------------------------------------------------
-- Renumbered Packets
------------------------------------------------------------

namespace Nkurdt

open SequenceNumber

namespace Packet

/- The packet with its number shifted. -/
def renumber
    (b : Nat)
    (packet : Packet) : Packet :=
  { packet with seq := shift b packet.seq }

theorem renumber_inRange
    {packet : Packet}
    (b : Nat)
    (hRange : packet.InRange) :
    (packet.renumber b).InRange :=
  ⟨hRange.version_lt, shift_lt hRange.seq_lt,
    hRange.payload_le⟩

/- Shifted numbers are equal where the numbers are. -/
theorem seq_renumber_eq
    (b : Nat)
    (p q : Packet) :
    (p.renumber b).seq = (q.renumber b).seq ↔
      p.seq = q.seq :=
  (shift b).injective.eq_iff

/- A datagram with the number of its packet shifted. -/
def renumberBytes
    (b : Nat)
    (bytes : List UInt8) : List UInt8 :=
  match fromBytes bytes with
  | some (some packet) => toBytes (packet.renumber b)
  | _ => bytes

theorem fromBytes_renumberBytes
    (b : Nat)
    (bytes : List UInt8) :
    fromBytes (renumberBytes b bytes) =
      (fromBytes bytes).map (Option.map (renumber b)) := by
  unfold renumberBytes
  match hDecoded : fromBytes bytes with
  | none => exact hDecoded
  | some none => exact hDecoded
  | some (some packet) =>
      have hRange := (layout_of_fromBytes hDecoded).1
      exact fromBytes_toBytes (renumber_inRange b hRange)

/- The buffer of a failed `recv` has nothing to shift. -/
@[simp] theorem renumberBytes_nil
    (b : Nat) :
    renumberBytes b [] = [] := by
  have hDecoded : fromBytes [] = none :=
    (fromBytes_eq_none_iff []).mpr (Or.inl rfl)
  unfold renumberBytes
  rw [hDecoded]

end Packet

/- The result with the number of its packet shifted. -/
def RecvResult.renumber (b : Nat) : RecvResult → RecvResult
| .error value => .error value
| .datagram bytes addr =>
    .datagram (Packet.renumberBytes b bytes) addr

end Nkurdt
