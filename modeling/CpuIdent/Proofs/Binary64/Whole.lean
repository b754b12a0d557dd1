import CpuIdent.Proofs.Binary64.Rounding

/-!
# Arithmetic on whole numbers in binary64

A whole number below `2 ^ 53` is stored exactly, and the difference of two of them is exact. A quotient of a positive integer and a
small whole number is far from zero: no number on the way is small enough to be rounded to it.
-/

namespace CpuIdent
namespace Binary64

open Float.Model (Format UnpackedFloat totalExponent)
open Float.Model.UnpackedFloat

/-! ## Whole numbers -/

/-- The rational number that a number stands for, unless it is infinite or not a number. -/
def rational? : UnpackedFloat → Option ℚ
  | .zero _ => some 0
  | .finite s m e _ => some (s.apply m * 2 ^ e)
  | _ => none

/-- The rational number that a float stands for, unless it is infinite or not a number. -/
def value? (x : Float) : Option ℚ := rational? x.toModel.unpack

section

variable {n : Nat} (hpos : 0 < n) (hn : n < 2 ^ 53)

include hpos in
/-- A positive number with zero bits behind it is positive. -/
theorem shiftLeft_pos (k : Nat) : 0 < n <<< k := by
  rw [Nat.shiftLeft_eq]
  exact Nat.mul_pos hpos (Nat.two_pow_pos k)

include hpos hn in
/-- Filled up with zero bits, a number has the length of a mantissa. -/
theorem log2_shiftLeft_full : (n <<< (52 - n.log2)).log2 = 52 := by
  have hlog : n.log2 < 53 := (Nat.log2_lt hpos.ne').2 hn
  rw [log2_shiftLeft _ hpos.ne']
  omega

include hn in
/-- A whole number is stored with all its bits, also where it is given with zero bits behind it. -/
theorem round_shiftLeft (s : Sign) (k : Nat) :
    UnpackedFloat.round Format.binary64 s (n <<< k) (-k) =
      .finite s (n <<< (52 - n.log2)) (-(52 - n.log2 : Nat)) (shiftLeft_pos hpos _) := by
  have hlog : n.log2 < 53 := (Nat.log2_lt hpos.ne').2 hn
  obtain ⟨j, hj⟩ : ∃ j, j = 52 - n.log2 := ⟨_, rfl⟩
  have hlogk : (n <<< k).log2 = n.log2 + k := log2_shiftLeft k hpos.ne'
  have htarget : Format.binary64.targetExponent (totalExponent (n <<< k) (-k)) = -(j : Int) := by
    rw [targetExponent_eq (by omega)]
    omega
  have hmantissa : n <<< k <<< (j - k) = n <<< j <<< (k - j) := by
    rw [← Nat.shiftLeft_add, ← Nat.shiftLeft_add]
    congr 1
    omega
  have hamount : (-(k : Int) - -(j : Int)).toNat = j - k := by omega
  have hexponent : -(k : Int) - (j - k : Nat) = -(j : Int) - (k - j : Nat) := by omega
  rw [← hj]
  simp only [UnpackedFloat.round, decreaseExponent, htarget, hamount, hmantissa, hexponent]
  refine roundWithAccuracy_shiftLeft s (k - j) ?_ (by omega) (shiftLeft_pos hpos _)
  rw [hj]
  exact log2_shiftLeft_full hpos hn

/-- Zero bits behind a number do not change its value, if the exponent makes up for them. -/
theorem rational?_shiftLeft (s : Sign) (k : Nat) (h : 0 < n <<< k) :
    rational? (.finite s (n <<< k) (-k) h) = some (s.apply n : ℚ) := by
  have hvalue : ((n <<< k : Nat) : ℚ) * 2 ^ (-k : Int) = n := by
    rw [Nat.shiftLeft_eq, Nat.cast_mul, Nat.cast_pow, Nat.cast_ofNat, zpow_neg, zpow_natCast,
      mul_inv_cancel_right₀ (pow_ne_zero k two_ne_zero)]
  cases s with
  | positive => simp only [rational?, Sign.apply, Int.cast_natCast, hvalue]
  | negative => simp only [rational?, Sign.apply, Int.cast_neg, Int.cast_natCast, neg_mul, hvalue]

include hpos hn in
/-- A whole number in its normal form is read back as it was packed. -/
theorem stored_shiftLeft (s : Sign) (h : 0 < n <<< (52 - n.log2)) :
    stored (.finite s (n <<< (52 - n.log2)) (-(52 - n.log2 : Nat)) h) =
      .finite s (n <<< (52 - n.log2)) (-(52 - n.log2 : Nat)) h :=
  stored_of_log2 s _ (log2_shiftLeft_full hpos hn) (by omega) (by omega)

end

/-- Zero is normalised to zero. -/
theorem normalize_zero (e : Int) : UnpackedFloat.normalize Format.binary64 0 e .positive = .zero .positive := rfl

/-- An integer below `2 ^ 53` is stored exactly. -/
theorem rational?_normalize {z : Int} (k : Nat) (hz : z.natAbs < 2 ^ 53) :
    rational? (stored (UnpackedFloat.normalize Format.binary64 (z * 2 ^ k) (-k) .positive)) = some (z : ℚ) := by
  have hpow : (0 : Int) < 2 ^ k := by positivity
  have hshift : (z.natAbs : Int) * 2 ^ k = (z.natAbs <<< k : Nat) := by
    rw [Nat.shiftLeft_eq, Nat.cast_mul, Nat.cast_pow, Nat.cast_ofNat]
  rcases lt_trichotomy z 0 with hneg | rfl | hpos
  · have hz' : z = -(z.natAbs : Int) := by omega
    have hmantissa : (-(z * 2 ^ k)).toNat = z.natAbs <<< k := by
      rw [← Int.neg_mul, show -z = z.natAbs by omega, hshift, Int.toNat_natCast]
    rw [UnpackedFloat.normalize, Int.compare_eq_lt.2 (Int.mul_neg_of_neg_of_pos hneg hpow)]
    simp only [hmantissa]
    rw [round_shiftLeft (by omega) hz, stored_shiftLeft (by omega) hz, rational?_shiftLeft, Sign.apply, ← hz']
  · rw [Int.zero_mul, normalize_zero, stored_zero, rational?, Int.cast_zero]
  · have hz' : z = (z.natAbs : Int) := by omega
    have hmantissa : (z * 2 ^ k).toNat = z.natAbs <<< k := by
      rw [hz', Int.natAbs_natCast, hshift, Int.toNat_natCast]
    rw [UnpackedFloat.normalize, Int.compare_eq_gt.2 (Int.mul_pos hpos hpow)]
    simp only [hmantissa]
    rw [round_shiftLeft (by omega) hz, stored_shiftLeft (by omega) hz, rational?_shiftLeft, Sign.apply, ← hz']

/-! ## Operations on whole numbers -/

section

variable {a b : UInt64}

/-- The float of a word below `2 ^ 53` holds all bits of the word. -/
theorem unpack_toFloat (ha : a.toNat < 2 ^ 53) : a.toFloat.toModel.unpack =
    if h : 0 < a.toNat then
      .finite .positive (a.toNat <<< (52 - a.toNat.log2)) (-(52 - a.toNat.log2 : Nat)) (shiftLeft_pos h _)
    else .zero .positive := by
  change stored (UnpackedFloat.normalize Format.binary64 (a.toNat : Int) 0 .positive) = _
  split
  case isTrue h =>
    rw [UnpackedFloat.normalize, Int.compare_eq_gt.2 (by omega)]
    simp only [Int.toNat_natCast]
    exact (congrArg _ (congrArg _ (round_shiftLeft h ha .positive 0))).trans (stored_shiftLeft h ha _ _)
  case isFalse h =>
    obtain h : a.toNat = 0 := by omega
    rw [h, Nat.cast_zero, normalize_zero, stored_zero]

/-- Bits that are moved in two steps. -/
theorem shiftLeft_shiftLeft_sub (m : Nat) {i k : Nat} (h : i ≤ k) : m <<< i <<< (k - i) = m * 2 ^ k := by
  rw [← Nat.shiftLeft_add, Nat.shiftLeft_eq, Nat.add_sub_of_le h]

/-- A difference is taken at the lower of the two exponents, where both numbers are whole. -/
theorem sub_shiftLeft {m n i j : Nat} (hm : 0 < m <<< i) (hn : 0 < n <<< j) :
    sub Format.binary64 (.finite .positive (m <<< i) (-i) hm) (.finite .positive (n <<< j) (-j) hn) =
      UnpackedFloat.normalize Format.binary64 ((m - n : Int) * 2 ^ max i j) (-(max i j : Nat)) .positive := by
  have hmin : min (-(i : Int)) (-(j : Int)) = -(max i j : Nat) := by omega
  have hi : (-(i : Int) - -(max i j : Nat)).toNat = max i j - i := by omega
  have hj : (-(j : Int) - -(max i j : Nat)).toNat = max i j - j := by omega
  have hm' := shiftLeft_shiftLeft_sub m (Nat.le_max_left i j)
  have hn' := shiftLeft_shiftLeft_sub n (Nat.le_max_right i j)
  simp only [sub, decreaseExponent, hmin, hi, hj, hm', hn', Sign.apply]
  push_cast
  rw [Int.sub_mul]

/-- The difference of two whole numbers below `2 ^ 53` is exact. -/
theorem value?_sub (ha : a.toNat < 2 ^ 53) (hb : b.toNat < 2 ^ 53) :
    value? (a.toFloat - b.toFloat) = some ((a.toNat - b.toNat : Int) : ℚ) := by
  change rational? (stored (sub Format.binary64 a.toFloat.toModel.unpack b.toFloat.toModel.unpack)) = _
  rw [unpack_toFloat ha, unpack_toFloat hb]
  rcases Nat.eq_zero_or_pos a.toNat with ha0 | hapos <;> rcases Nat.eq_zero_or_pos b.toNat with hb0 | hbpos
  · rw [dif_neg (by omega), dif_neg (by omega), ha0, hb0]
    exact congrArg rational? (stored_zero .positive)
  · have hnegative := stored_shiftLeft hbpos hb .negative (shiftLeft_pos hbpos _)
    rw [dif_neg (by omega), dif_pos hbpos, ha0, Nat.cast_zero, Int.zero_sub]
    exact (congrArg rational? hnegative).trans (rational?_shiftLeft .negative _ _)
  · have hpositive := stored_shiftLeft hapos ha .positive (shiftLeft_pos hapos _)
    rw [dif_pos hapos, dif_neg (by omega), hb0, Nat.cast_zero, Int.sub_zero]
    exact (congrArg rational? hpositive).trans (rational?_shiftLeft .positive _ _)
  · rw [dif_pos hapos, dif_pos hbpos, sub_shiftLeft, rational?_normalize _ (by omega)]

end

/-! ## Positive numbers that are not too small -/

/-- A positive number with all bits of its mantissa, the lowest of which stands for `2 ^ k` or more; or the positive infinity. -/
inductive Reaches (k : Int) : UnpackedFloat → Prop
  | infinity : Reaches k (.infinity .positive)
  | finite {m : Nat} {e : Int} (hpos : 0 < m) (hm : m.log2 = 52) (he : k ≤ e) : Reaches k (.finite .positive m e hpos)

/-- Rounding a mantissa of full length loses nothing of its size. -/
theorem reaches_roundWithAccuracy {k : Int} {m : Nat} {e : Int} (a : Accuracy) (hk : -1074 ≤ k) (hm : 52 ≤ m.log2)
    (he : k ≤ e + (m.log2 - 52 : Int)) : Reaches k (roundWithAccuracy Format.binary64 .positive m e a) := by
  obtain ⟨m', e', h, heq, hm', he'⟩ := exists_roundWithAccuracy_eq .positive a hm (hk.trans he)
  rw [heq]
  exact .finite h hm' (he.trans he')

namespace Reaches

/-- What reaches a power of two reaches all lower ones. -/
theorem mono {k l : Int} {x : UnpackedFloat} (h : Reaches k x) (hle : l ≤ k) : Reaches l x := by
  cases h with
  | infinity => exact .infinity
  | finite hpos hm he => exact .finite hpos hm (hle.trans he)

/-- A number that reaches a power of two still does when it is stored, or becomes infinite. -/
theorem stored {k : Int} {x : UnpackedFloat} (h : Reaches k x) (hk : -1074 ≤ k) : Reaches k (stored x) := by
  cases h with
  | infinity =>
    rw [stored_infinity]
    exact .infinity
  | @finite m e hpos hm he =>
    rcases Int.lt_or_le 971 e with hlarge | hsmall
    · rw [stored_of_large _ hpos hlarge]
      exact .infinity
    · rw [stored_of_log2 _ hpos hm (hk.trans he) hsmall]
      exact .finite hpos hm he

/-- A quotient of numbers with all bits has all bits: enough of them are moved in before the division. -/
theorem div {k : Int} {x : UnpackedFloat} (hx : Reaches k x) {m : Nat} {e : Int} (hpos : 0 < m) (hm : m.log2 = 52)
    (hk : -1074 ≤ k - e - 53) : Reaches (k - e - 53) (div Format.binary64 x (.finite .positive m e hpos)) := by
  cases hx with
  | infinity => exact .infinity
  | @finite m₁ e₁ hpos₁ hm₁ he₁ =>
    have htarget : Format.binary64.targetExponent (totalExponent m₁ e₁ - totalExponent m e) = e₁ - e - 53 := by
      simp only [Format.targetExponent, totalExponent, Format.mantissaBits, Format.minExponent, hm, hm₁]
      omega
    have hamount : (e₁ - e - min (e₁ - e) (e₁ - e - 53)).toNat = 53 := by omega
    have hquotient : 2 ^ 52 ≤ m₁ <<< 53 / m := by
      have hlow : 2 ^ 52 ≤ m₁ := hm₁ ▸ Nat.log2_self_le hpos₁.ne'
      have hhigh : m < 2 ^ 53 := (Nat.log2_lt hpos.ne').1 (by omega)
      rw [Nat.le_div_iff_mul_le hpos, Nat.shiftLeft_eq]
      exact Nat.mul_le_mul hlow hhigh.le
    have hlog : 52 ≤ (m₁ <<< 53 / m).log2 := (Nat.le_log2 (by omega)).2 hquotient
    simp only [UnpackedFloat.div, divCore, htarget, hamount]
    exact reaches_roundWithAccuracy _ hk hlog (by omega)

/-- A number that reaches any power of two is not zero. -/
theorem beq_zero {k : Int} {x : UnpackedFloat} (h : Reaches k x) (s : Sign) : x.beq (.zero s) = false := by
  cases h <;> rfl

/-- A product of numbers with all bits has all bits. -/
theorem mul {k : Int} {x : UnpackedFloat} (hx : Reaches k x) {m : Nat} {e : Int} (hpos : 0 < m) (hm : m.log2 = 52)
    (hk : -1074 ≤ k + e + 52) : Reaches (k + e + 52) (mul Format.binary64 x (.finite .positive m e hpos)) := by
  cases hx with
  | infinity => exact .infinity
  | @finite m₁ e₁ hpos₁ hm₁ he₁ =>
    have hproduct : 2 ^ 52 * 2 ^ 52 ≤ m₁ * m :=
      Nat.mul_le_mul (hm₁ ▸ Nat.log2_self_le hpos₁.ne') (hm ▸ Nat.log2_self_le hpos.ne')
    have hlog : 104 ≤ (m₁ * m).log2 := (Nat.le_log2 (by omega)).2 hproduct
    exact reaches_roundWithAccuracy _ hk (by omega) (by omega)

end Reaches

/-- The float of a positive word reaches the lowest power that is asked of a divisor. -/
theorem reaches_toFloat {a : UInt64} (hpos : 0 < a.toNat) (ha : a.toNat < 2 ^ 53) : Reaches (-52) a.toFloat.toModel.unpack := by
  rw [unpack_toFloat ha, dif_pos hpos]
  exact .finite _ (log2_shiftLeft_full hpos ha) (by omega)

/-- A small number is converted as a word and multiplied by one. -/
theorem reaches_ofScientific_of_lt {n : Nat} (hpos : 0 < n) (hsmall : n < 2 ^ 53) :
    Reaches (-52) (Float.ofScientific n false 0).toModel.unpack := by
  have hword : n.toUInt64.toNat = n := by
    rw [Nat.toUInt64, UInt64.toNat_ofNat', Nat.mod_eq_of_lt (by omega)]
  have hproduct : Float.ofScientific n false 0 = n.toUInt64.toFloat * Float.ofBits 0x3FF0000000000000 := by
    rw [Float.ofScientific, dif_pos ⟨hsmall, by decide⟩]
    rfl
  have hone : (Float.ofBits 0x3FF0000000000000).toModel.unpack = .finite .positive (2 ^ 52) (-52) (by decide) := rfl
  have hfactor := reaches_toFloat (a := n.toUInt64) (by omega) (by omega)
  have hmul := hfactor.mul (m := 2 ^ 52) (e := -52) (by decide) (by decide) (by decide)
  rw [hproduct]
  change Reaches (-52) (stored
    (mul Format.binary64 n.toUInt64.toFloat.toModel.unpack (Float.ofBits 0x3FF0000000000000).toModel.unpack))
  rw [hone]
  exact hmul.stored (by decide)

/-- A large number is moved up by a whole mantissa and rounded. -/
theorem reaches_ofScientific_of_le {n : Nat} (hlarge : 2 ^ 53 ≤ n) :
    Reaches (-52) (Float.ofScientific n false 0).toModel.unpack := by
  have hlog : 53 ≤ n.log2 := (Nat.le_log2 (by omega)).2 hlarge
  have hshift : (n <<< 53 * 1).log2 = n.log2 + 53 := by rw [Nat.mul_one, log2_shiftLeft _ (by omega)]
  have hround := reaches_roundWithAccuracy (k := -52) (m := n <<< 53 * 1) (e := -53 + 0) .exact (by decide) (by omega) (by omega)
  have hrange : ¬ (0 : Int) < -((2 ^ Format.binary64.exponentBits : Int) + n.log2) := by
    change ¬ (0 : Int) < -((2 ^ 11 : Int) + n.log2)
    omega
  rw [Float.ofScientific, dif_neg (by omega)]
  change Reaches (-52) (stored (ofScientific Format.binary64 n 0))
  rw [ofScientific, dif_neg (by omega), if_neg (by decide), if_neg hrange, if_pos (by decide)]
  exact hround.stored (by decide)

/-- A positive integer is not rounded below one. -/
theorem reaches_ofInt {z : Int} (hz : 0 < z) : Reaches (-52) (Float.ofInt z).toModel.unpack := by
  obtain ⟨n, rfl⟩ := Int.eq_ofNat_of_zero_le hz.le
  change Reaches (-52) (Float.ofScientific n false 0).toModel.unpack
  rcases Nat.lt_or_ge n (2 ^ 53) with hsmall | hlarge
  · exact reaches_ofScientific_of_lt (by omega) hsmall
  · exact reaches_ofScientific_of_le hlarge

/-- A number that reaches something is not zero. -/
theorem ne_zero_of_reaches {k : Int} {x : Float} (h : Reaches k x.toModel.unpack) : (x == 0) = false := by
  have hzero : (0 : Float).toModel.unpack = .zero .positive := rfl
  change UnpackedFloat.beq x.toModel.unpack (0 : Float).toModel.unpack = false
  rw [hzero]
  exact h.beq_zero _

/-- The quotient of a number that reaches one and a small whole number reaches something. -/
theorem reaches_div {x : Float} {a : UInt64} (hx : Reaches (-52) x.toModel.unpack) (hpos : 0 < a.toNat) (ha : a.toNat < 2 ^ 53) :
    Reaches (-105) (x / a.toFloat).toModel.unpack := by
  have hdiv := hx.div (shiftLeft_pos hpos _) (log2_shiftLeft_full hpos ha) (e := -(52 - a.toNat.log2 : Nat)) (by omega)
  change Reaches (-105) (stored (div Format.binary64 x.toModel.unpack a.toFloat.toModel.unpack))
  rw [unpack_toFloat ha, dif_pos hpos]
  exact (hdiv.mono (by omega)).stored (by decide)

end Binary64
end CpuIdent
