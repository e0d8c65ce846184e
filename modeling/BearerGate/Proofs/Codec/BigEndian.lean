import BearerGate.Codec.BigEndian
import Mathlib.Algebra.Group.Nat.Defs
import Mathlib.Data.List.Induction

/-!
# Numbers read back from their bytes

Every number is read back from its bytes (`toNat_toBytes`), and no other bytes of the number are
fewer (`length_toBytes_le`). Zero bytes in front of bytes add nothing to their number
(`toNat_zeros_append`), and bytes of a given length stay below the power of 256 that belongs to it
(`toNat_lt`), so that bytes which fill a word fit into it.
-/

namespace BearerGate.BigEndian

/-! ## Reading -/

theorem toNat_concat (bytes : List UInt8) (last : UInt8) :
    toNat (bytes ++ [last]) = toNat bytes * 256 + last.toNat := by
  unfold toNat
  rw [List.foldl_append]
  rfl

theorem toNat_lt (bytes : List UInt8) : toNat bytes < 256 ^ bytes.length := by
  induction bytes using List.reverseRecOn with
  | nil => decide
  | append_singleton bytes last ih =>
    have digit := last.toNat_lt
    rw [toNat_concat, List.length_append, List.length_singleton, Nat.pow_succ]
    omega

theorem toNat_zeros_append (zeros : Nat) (bytes : List UInt8) :
    toNat (List.replicate zeros 0 ++ bytes) = toNat bytes := by
  have nothing : (List.replicate zeros (0 : UInt8)).foldl (fun n b => n * 256 + b.toNat) 0 = 0 := by
    induction zeros with
    | zero => rfl
    | succ zeros ih => exact ih
  unfold toNat
  rw [List.foldl_append, nothing]

/-! ## Writing -/

theorem length_ofNat (width n : Nat) : (ofNat width n).length = width := by
  induction width generalizing n with
  | zero => rfl
  | succ width ih => rw [ofNat, List.length_append, ih, List.length_singleton]

/-- A number is read back from as many bytes as it needs, or more. -/
theorem toNat_ofNat {width n : Nat} (fits : n < 256 ^ width) : toNat (ofNat width n) = n := by
  induction width generalizing n with
  | zero =>
    have zero : n = 0 := Nat.lt_one_iff.mp fits
    subst zero
    decide
  | succ width ih =>
    have digit : (UInt8.ofNat (n % 256)).toNat = n % 256 :=
      UInt8.toNat_ofNat_of_lt (Nat.mod_lt n (by decide))
    have front : n / 256 < 256 ^ width := by
      apply Nat.div_lt_of_lt_mul
      rwa [Nat.pow_succ, Nat.mul_comm] at fits
    rw [ofNat, toNat_concat, ih front, digit]
    omega

/-! ## The fewest bytes -/

theorem lt_two_pow_bitLength (n : Nat) : n < 2 ^ bitLength n := by
  unfold bitLength
  split
  · next zero =>
    subst zero
    decide
  · exact Nat.lt_log2_self

/-- A number below a power of two has no more bits than the power. -/
theorem bitLength_le {n bits : Nat} (bound : n < 2 ^ bits) : bitLength n ≤ bits := by
  unfold bitLength
  split
  · exact Nat.zero_le bits
  · next positive => exact (Nat.log2_lt positive).mpr bound

theorem two_pow_mul_eight (width : Nat) : 2 ^ (8 * width) = 256 ^ width :=
  Nat.pow_mul 2 8 width

theorem lt_pow_byteLength (n : Nat) : n < 256 ^ byteLength n := by
  have within : bitLength n ≤ 8 * byteLength n := by
    unfold byteLength
    omega
  rw [← two_pow_mul_eight]
  exact Nat.lt_of_lt_of_le (lt_two_pow_bitLength n) (Nat.pow_le_pow_right (by decide) within)

/-- A number that fits into so many bytes needs no more. -/
theorem byteLength_le {n width : Nat} (fits : n < 256 ^ width) : byteLength n ≤ width := by
  rw [← two_pow_mul_eight] at fits
  have bits := bitLength_le fits
  unfold byteLength
  omega

theorem length_toBytes (n : Nat) : (toBytes n).length = max 1 (byteLength n) :=
  length_ofNat _ n

theorem toNat_toBytes (n : Nat) : toNat (toBytes n) = n := by
  apply toNat_ofNat
  exact Nat.lt_of_lt_of_le (lt_pow_byteLength n)
    (Nat.pow_le_pow_right (by decide) (Nat.le_max_right 1 (byteLength n)))

/-- No bytes of a number are fewer than those that it is written in. -/
theorem length_toBytes_le {bytes : List UInt8} (some : bytes ≠ []) :
    (toBytes (toNat bytes)).length ≤ bytes.length := by
  have filled : 0 < bytes.length := List.length_pos_iff.mpr some
  have needed := byteLength_le (toNat_lt bytes)
  rw [length_toBytes]
  omega

end BearerGate.BigEndian
