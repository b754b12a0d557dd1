import CpuIdent.Signature.Basic
import Mathlib.Algebra.Group.Nat.Defs

/-!
# Fields of words

A field of a word is the word divided by the weight of its lowest bit, as far as the field is wide (`toNat_field`). So it
is less than what its width can hold, it depends on its own bits only (`field_congr`), and it is put together from two fields
wherever it is cut (`toNat_field_cut`). The bytes of a word are its digits in base 256 (`bytes_eq`).
-/

namespace CpuIdent
namespace Bits

section

variable {high low : Nat}

/-- A single bit, moved to its place. -/
theorem toNat_one_shiftLeft {place : Nat} (h : place < 64) : ((1 : UInt64) <<< UInt64.ofNat place).toNat = 2 ^ place := by
  have hplace : (UInt64.ofNat place).toNat % 64 = place := by
    rw [UInt64.toNat_ofNat', Nat.mod_eq_of_lt (Nat.lt_trans h (by decide)), Nat.mod_eq_of_lt h]
  have hpow : 2 ^ place < 2 ^ 64 := Nat.pow_lt_pow_right (by decide) h
  rw [UInt64.toNat_shiftLeft, hplace, UInt64.toNat_one, Nat.one_shiftLeft, Nat.mod_eq_of_lt hpow]

/-- The mask of a field narrower than the word. -/
theorem toNat_mask {width : Nat} (h : width < 64) : (((1 : UInt64) <<< UInt64.ofNat width) - 1).toNat = 2 ^ width - 1 := by
  have hone : (1 : UInt64) ≤ (1 : UInt64) <<< UInt64.ofNat width := by
    rw [UInt64.le_iff_toNat_le, toNat_one_shiftLeft h]
    exact Nat.one_le_two_pow
  rw [UInt64.toNat_sub_of_le _ _ hone, toNat_one_shiftLeft h, UInt64.toNat_one]

/-- A field is a quotient and a remainder of powers of two. -/
theorem toNat_field (value : UInt64) (hlow : low ≤ high) (hhigh : high < 64) :
    (field value high low).toNat = value.toNat / 2 ^ low % 2 ^ (high - low + 1) := by
  have hmod : (UInt64.ofNat low).toNat % 64 = low := by
    rw [UInt64.toNat_ofNat', Nat.mod_eq_of_lt (by omega), Nat.mod_eq_of_lt (by omega)]
  have hshift : (value >>> UInt64.ofNat low).toNat = value.toNat / 2 ^ low := by
    rw [UInt64.toNat_shiftRight, hmod, Nat.shiftRight_eq_div_pow]
  unfold field
  dsimp only
  split
  · -- The field is the whole word
    rename_i hwide
    have hle : value.toNat / 2 ^ low < 2 ^ (high - low + 1) :=
      Nat.lt_of_le_of_lt (Nat.div_le_self _ _) (Nat.lt_of_lt_of_le value.toNat_lt (Nat.pow_le_pow_right (by decide) hwide))
    rw [hshift, Nat.mod_eq_of_lt hle]
  · rename_i hnarrow
    rw [UInt64.toNat_and, hshift, toNat_mask (Nat.not_le.1 hnarrow), Nat.and_two_pow_sub_one_eq_mod]

/-- A field has no more bits than its width. -/
theorem toNat_field_lt (value : UInt64) (hlow : low ≤ high) (hhigh : high < 64) :
    (field value high low).toNat < 2 ^ (high - low + 1) := by
  rw [toNat_field value hlow hhigh]
  exact Nat.mod_lt _ (Nat.two_pow_pos _)

/-- A field of a 32-bit word is a quotient and a remainder of powers of two. -/
theorem toNat_field32 (value : UInt32) (hlow : low ≤ high) (hhigh : high < 32) :
    (field32 value high low).toNat = value.toNat / 2 ^ low % 2 ^ (high - low + 1) := by
  have hfield := toNat_field value.toUInt64 hlow (by omega)
  rw [UInt32.toNat_toUInt64] at hfield
  have hlt : value.toNat / 2 ^ low % 2 ^ (high - low + 1) < 2 ^ 32 :=
    Nat.lt_of_le_of_lt (Nat.mod_le _ _) (Nat.lt_of_le_of_lt (Nat.div_le_self _ _) value.toNat_lt)
  rw [field32, UInt64.toNat_toUInt32, hfield, Nat.mod_eq_of_lt hlt]

/-- A field of a 32-bit word has no more bits than its width. -/
theorem toNat_field32_lt (value : UInt32) (hlow : low ≤ high) (hhigh : high < 32) :
    (field32 value high low).toNat < 2 ^ (high - low + 1) := by
  rw [toNat_field32 value hlow hhigh]
  exact Nat.mod_lt _ (Nat.two_pow_pos _)

/-- A field is put together from its two parts at any cut: the upper part counts as often as the lower part has values. -/
theorem toNat_field_cut (value : UInt64) {cut : Nat} (hlow : low < cut) (hcut : cut ≤ high) (hhigh : high < 64) :
    (field value high low).toNat =
      (field value high cut).toNat * 2 ^ (cut - low) + (field value (cut - 1) low).toNat := by
  have hwidth : high - low + 1 = (cut - low) + (high - cut + 1) := by omega
  have hlower : cut - 1 - low + 1 = cut - low := by omega
  have hcutAt : low + (cut - low) = cut := by omega
  rw [toNat_field value (by omega) hhigh, toNat_field value hcut hhigh, toNat_field value (by omega) (by omega), hwidth, hlower,
    Nat.pow_add, Nat.mod_mul, Nat.div_div_eq_div_mul, ← Nat.pow_add, hcutAt, Nat.mul_comm, Nat.add_comm]

/-- The field of all bits is the word. -/
theorem field_all (value : UInt64) : field value 63 0 = value := by
  refine UInt64.toNat_inj.1 ?_
  rw [toNat_field value (by decide) (by decide), Nat.pow_zero, Nat.div_one]
  exact Nat.mod_eq_of_lt value.toNat_lt

/-- The bits of a field are those of the word from its lowest on. -/
theorem testBit_field (value : UInt64) (hlow : low ≤ high) (hhigh : high < 64) (i : Nat) :
    (field value high low).toNat.testBit i = (decide (i < high - low + 1) && value.toNat.testBit (low + i)) := by
  rw [toNat_field value hlow hhigh, Nat.testBit_mod_two_pow, Nat.testBit_div_two_pow, Nat.add_comm i low]

/-- Words with the same bits in a field have the same value in it. -/
theorem field_congr {value value' : UInt64} (hlow : low ≤ high) (hhigh : high < 64)
    (h : ∀ i, low ≤ i → i ≤ high → value'.toNat.testBit i = value.toNat.testBit i) :
    field value' high low = field value high low := by
  refine UInt64.toNat_inj.1 (Nat.eq_of_testBit_eq fun i => ?_)
  rw [testBit_field value' hlow hhigh, testBit_field value hlow hhigh]
  by_cases hi : i < high - low + 1
  · rw [h (low + i) (by omega) (by omega)]
  · simp [hi]

end

/-! ## Bytes -/

/-- A byte of a word is a digit of it to the base 256. -/
theorem toUInt8_shiftRight (w : UInt32) {k : Nat} (h : k < 4) :
    (w >>> UInt32.ofNat (8 * k)).toUInt8 = UInt8.ofNat (w.toNat / 256 ^ k) := by
  have hshift : (UInt32.ofNat (8 * k)).toNat % 32 = 8 * k := by
    rw [UInt32.toNat_ofNat', Nat.mod_eq_of_lt (by omega), Nat.mod_eq_of_lt (by omega)]
  have hpow : (2 : Nat) ^ (8 * k) = 256 ^ k := Nat.pow_mul 2 8 k
  rw [← UInt8.toNat_inj, UInt32.toNat_toUInt8, UInt32.toNat_shiftRight, hshift, Nat.shiftRight_eq_div_pow, hpow,
    UInt8.toNat_ofNat']

/-- The bytes of a word are its digits in base 256. -/
theorem bytes_eq (w : UInt32) : bytes w = (List.range 4).map fun k => UInt8.ofNat (w.toNat / 256 ^ k) := by
  have hshift : ∀ k ∈ List.range 4, UInt8.ofNat (w.toNat / 256 ^ k) = (w >>> UInt32.ofNat (8 * k)).toUInt8 := fun k hk =>
    (toUInt8_shiftRight w (List.mem_range.1 hk)).symm
  rw [List.map_congr_left hshift]
  show bytes w = [(w >>> 0).toUInt8, (w >>> 8).toUInt8, (w >>> 16).toUInt8, (w >>> 24).toUInt8]
  rw [UInt32.shiftRight_zero, bytes]

end Bits
end CpuIdent
