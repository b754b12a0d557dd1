import Mathlib

/-!
# Rounding and packing of binary64 numbers

How floats are rounded and packed, for numbers that have all 53 bits of their mantissa. Such a number stays as it is and is read
back as it was packed unless its exponent is too large. What is longer is rounded to such a number of at least the same size.
-/

namespace CpuIdent
namespace Binary64

open Float.Model (Format UnpackedFloat totalExponent)
open Float.Model.UnpackedFloat

/-! ## Shifting and rounding -/

/-- Bits that are shifted out are cut off the mantissa. -/
theorem mantissa_shiftRight (em : ExtendedMantissa) (k : Nat) : (em >>> k).mantissa = em.mantissa / 2 ^ k := by
  induction k with
  | zero => exact (Nat.div_one _).symm
  | succ k ih =>
    change (em >>> k).mantissa / 2 = _
    rw [ih, Nat.div_div_eq_div_mul, Nat.pow_succ]

/-- A mantissa with its accuracy is the mantissa. -/
theorem mantissa_ofMantissaAndAccuracy (m : Nat) (a : Accuracy) :
    (ExtendedMantissa.ofMantissaAndAccuracy m a).mantissa = m := by
  rcases a with _ | (_ | _ | _) <;> rfl

/-- Rounding a mantissa keeps it or adds one. -/
theorem roundedMantissa_bounds (em : ExtendedMantissa) :
    em.mantissa ≤ em.roundedMantissa ∧ em.roundedMantissa ≤ em.mantissa + 1 := by
  obtain ⟨m, half, sticky⟩ := em
  cases half <;> cases sticky <;>
    simp only [ExtendedMantissa.roundedMantissa, ExtendedMantissa.accuracy, Accuracy.roundToNearestEven] <;> omega

/-- Bits that are zero can be shifted out without a trace. -/
theorem shiftRight_exact (m k : Nat) :
    ExtendedMantissa.ofMantissaAndAccuracy (m <<< k) .exact >>> k = ExtendedMantissa.ofMantissaAndAccuracy m .exact := by
  induction k generalizing m with
  | zero => rfl
  | succ k ih =>
    have hdouble : m <<< (k + 1) = (2 * m) <<< k := Nat.shiftLeft_succ_inside m k
    change ExtendedMantissa.shiftRightOne (ExtendedMantissa.ofMantissaAndAccuracy (m <<< (k + 1)) .exact >>> k) = _
    rw [hdouble, ih]
    simp [ExtendedMantissa.shiftRightOne, ExtendedMantissa.ofMantissaAndAccuracy]

/-- Zero bits behind a number lengthen it by as many. -/
theorem log2_shiftLeft {m : Nat} (k : Nat) (hm : m ≠ 0) : (m <<< k).log2 = m.log2 + k := by
  obtain ⟨hlow, hhigh⟩ := (Nat.log2_eq_iff hm).1 rfl
  have hpos : m <<< k ≠ 0 := by
    rw [Nat.shiftLeft_eq]
    exact Nat.mul_ne_zero hm (Nat.two_pow_pos k).ne'
  rw [Nat.log2_eq_iff hpos, Nat.shiftLeft_eq, Nat.add_right_comm, Nat.pow_add, Nat.pow_add _ _ k]
  exact ⟨Nat.mul_le_mul_right _ hlow, Nat.mul_lt_mul_of_pos_right hhigh (Nat.two_pow_pos k)⟩

/-- The exponent that a mantissa is rounded to, where it is not too small for a normal number. -/
theorem targetExponent_eq {m : Nat} {e : Int} (h : -1074 ≤ e + (m.log2 - 52 : Int)) :
    Format.binary64.targetExponent (totalExponent m e) = e + (m.log2 - 52 : Int) := by
  simp only [Format.targetExponent, totalExponent, Format.mantissaBits, Format.minExponent]
  omega

/-- What is too long for a mantissa is shifted out. -/
theorem shiftToTargetExponent_eq {m k : Nat} {e : Int} (a : Accuracy) (hm : m.log2 = 52 + k) (he : -1074 ≤ e + k) :
    shiftToTargetExponent Format.binary64 m e a = (ExtendedMantissa.ofMantissaAndAccuracy m a >>> k, e + k) := by
  have hamount : (e + (m.log2 - 52 : Int) - e).toNat = k := by omega
  have htarget := targetExponent_eq (m := m) (e := e) (by omega)
  simp only [shiftToTargetExponent, shiftToExponent, htarget, hamount]

/-- A mantissa of full length stays as it is. -/
theorem shiftToTargetExponent_of_log2 {m : Nat} {e : Int} (a : Accuracy) (hm : m.log2 = 52) (he : -1074 ≤ e) :
    shiftToTargetExponent Format.binary64 m e a = (ExtendedMantissa.ofMantissaAndAccuracy m a, e) := by
  have hshift := shiftToTargetExponent_eq (k := 0) (e := e) a hm (by omega)
  rw [hshift, Int.natCast_zero, Int.add_zero]
  rfl

/-- What is left of a mantissa has full length. -/
theorem mantissa_shiftRight_bounds {m k : Nat} (a : Accuracy) (hm : m.log2 = 52 + k) :
    2 ^ 52 ≤ (ExtendedMantissa.ofMantissaAndAccuracy m a >>> k).mantissa ∧
      (ExtendedMantissa.ofMantissaAndAccuracy m a >>> k).mantissa < 2 ^ 53 := by
  have hne : m ≠ 0 := by
    rintro rfl
    rw [Nat.log2_zero] at hm
    omega
  rw [mantissa_shiftRight, mantissa_ofMantissaAndAccuracy]
  constructor
  · rw [Nat.le_div_iff_mul_le (Nat.two_pow_pos k), ← Nat.pow_add, ← hm]
    exact Nat.log2_self_le hne
  · rw [Nat.div_lt_iff_lt_mul (Nat.two_pow_pos k), ← Nat.pow_add, show 53 + k = m.log2 + 1 by omega]
    exact Nat.lt_log2_self

/-- A mantissa with all its bits, or more, is rounded to a normal number of at least the same size. -/
theorem exists_roundWithAccuracy_eq (s : Sign) {m : Nat} {e : Int} (a : Accuracy) (hm : 52 ≤ m.log2)
    (he : -1074 ≤ e + (m.log2 - 52 : Int)) :
    ∃ m' e' h, roundWithAccuracy Format.binary64 s m e a = .finite s m' e' h ∧ m'.log2 = 52 ∧
      e + (m.log2 - 52 : Int) ≤ e' := by
  obtain ⟨k, hk⟩ := Nat.exists_eq_add_of_le hm
  have hfirst := shiftToTargetExponent_eq (e := e) a hk (by omega)
  obtain ⟨hlow, hhigh⟩ := mantissa_shiftRight_bounds a hk
  generalize ExtendedMantissa.ofMantissaAndAccuracy m a >>> k = em at hfirst hlow hhigh
  obtain ⟨hle, hge⟩ := roundedMantissa_bounds em
  rcases Nat.lt_or_ge em.roundedMantissa (2 ^ 53) with hsmall | hlarge
  · have hlog : em.roundedMantissa.log2 = 52 := (Nat.log2_eq_iff (by omega)).2 ⟨by omega, hsmall⟩
    have hsecond := shiftToTargetExponent_of_log2 .exact hlog (e := e + k) (by omega)
    refine ⟨em.roundedMantissa, e + k, by omega, ?_, hlog, by omega⟩
    simp only [roundWithAccuracy, hfirst, hsecond, mantissa_ofMantissaAndAccuracy]
    rw [dif_neg (by omega)]
  · -- The mantissa was rounded up to one bit more
    have hpow : em.roundedMantissa = (2 ^ 52) <<< 1 := by omega
    have hlog : em.roundedMantissa.log2 = 52 + 1 := by
      rw [hpow]
      decide
    have hsecond := shiftToTargetExponent_eq .exact hlog (e := e + k) (by omega)
    rw [hpow, shiftRight_exact, ← hpow] at hsecond
    refine ⟨2 ^ 52, e + k + 1, by decide, ?_, by decide, by omega⟩
    simp only [roundWithAccuracy, hfirst, hsecond, mantissa_ofMantissaAndAccuracy]
    rw [dif_neg (by decide)]
    rfl

/-- A mantissa of full length is rounded to itself, also with zero bits behind it. -/
theorem roundWithAccuracy_shiftLeft (s : Sign) {m : Nat} {e : Int} (k : Nat) (hm : m.log2 = 52) (he : -1074 ≤ e) (hpos : 0 < m) :
    roundWithAccuracy Format.binary64 s (m <<< k) (e - k) .exact = .finite s m e hpos := by
  have hne : m ≠ 0 := Nat.pos_iff_ne_zero.1 hpos
  have hlog : (m <<< k).log2 = 52 + k := by rw [log2_shiftLeft k hne, hm]
  have hfirst := shiftToTargetExponent_eq .exact hlog (e := e - k) (by omega)
  have hrounded : (ExtendedMantissa.ofMantissaAndAccuracy m .exact).roundedMantissa = m := rfl
  rw [shiftRight_exact, Int.sub_add_cancel] at hfirst
  simp only [roundWithAccuracy, hfirst, hrounded, shiftToTargetExponent_of_log2 .exact hm he, mantissa_ofMantissaAndAccuracy]
  rw [dif_neg hne]

/-! ## Packing -/

/-- A number as it is read back after it was packed. -/
def stored (x : UnpackedFloat) : UnpackedFloat := unpack Format.binary64 (pack Format.binary64 x)

/-- Infinities are read back as they were packed. -/
theorem stored_infinity (s : Sign) : stored (.infinity s) = .infinity s := by
  simp [stored, pack, unpack, packedInfinity]

/-- Zeros are read back as they were packed. -/
theorem stored_zero (s : Sign) : stored (.zero s) = .zero s := unpack_packedZero

/-- A normal number is read back as it was packed, if its exponent is not too large. -/
theorem stored_of_log2 (s : Sign) {m : Nat} {e : Int} (hpos : 0 < m) (hm : m.log2 = 52) (he : -1074 ≤ e) (he' : e ≤ 971) :
    stored (.finite s m e hpos) = .finite s m e hpos := by
  obtain ⟨biased, hbiased⟩ : ∃ biased : Nat, e + 1075 = biased := ⟨_, (Int.toNat_of_nonneg (by omega)).symm⟩
  have hexponent :
      (e + (Format.binary64.exponentBias : Int) + (Format.binary64.mantissaBitsWithoutImplicit : Int)).toNat = biased := by
    change (e + 1023 + 52).toNat = biased
    omega
  have hvalue : (BitVec.ofNat 11 biased).toNat = biased := by
    rw [BitVec.toNat_ofNat, Nat.mod_eq_of_lt (by omega)]
  have hnot : BitVec.ofNat 11 biased ≠ -1#11 := fun h => by
    have := congrArg BitVec.toNat h
    rw [hvalue] at this
    simp at this
    omega
  have hnot' : BitVec.ofNat 11 biased ≠ 0#11 := fun h => by
    have := congrArg BitVec.toNat h
    rw [hvalue] at this
    simp at this
    omega
  have hbits : (1#1 ++ BitVec.ofNat 52 m).toNat = m := by
    obtain ⟨hlow, hhigh⟩ := (Nat.log2_eq_iff (by omega)).1 hm
    rw [BitVec.toNat_append, ← Nat.shiftLeft_add_eq_or_of_lt (BitVec.ofNat 52 m).isLt, BitVec.toNat_ofNat, BitVec.toNat_ofNat,
      Nat.shiftLeft_eq]
    omega
  have hpack : pack Format.binary64 (.finite s m e hpos) =
      packComponents Format.binary64 s (BitVec.ofNat 11 biased) (BitVec.ofNat 52 m) := by
    unfold pack
    dsimp only
    rw [hexponent, if_neg (by omega), if_pos (by rw [hm]; rfl)]
  rw [stored, hpack]
  unfold unpack
  simp only [unpackMantissa_packComponents, unpackExponent_packComponents, unpackSign_packComponents, Sign.ofBitVec_toBitVec]
  rw [if_neg hnot, if_neg hnot']
  congr 1
  rw [hvalue]
  change (biased : Int) - (1023 + 52) = e
  omega

/-- A number that is too large is read back as infinity. -/
theorem stored_of_large (s : Sign) {m : Nat} {e : Int} (hpos : 0 < m) (he : 971 < e) :
    stored (.finite s m e hpos) = .infinity s := by
  have hpack : pack Format.binary64 (.finite s m e hpos) = pack Format.binary64 (.infinity s) := by
    unfold pack
    dsimp only
    rw [if_pos]
    change 2 ^ 11 ≤ (e + 1023 + 52).toNat + 1
    omega
  rw [stored, hpack]
  exact stored_infinity s

end Binary64
end CpuIdent
