import CpuIdent.Proofs.Bits
import CpuIdent.Proofs.Feature.Members

/-!
# Feature sets in words

Four words of 64 bits hold a set of features: the bit of a feature stands in the word and at the place that the division of
its index by 64 gives, and no other bit is ever set (`FlagWords.Stores`). The words answer as the set does
(`FlagWords.Stores.len`, `FlagWords.Stores.isEmpty`), and equal sets are stored in equal words (`FlagWords.Stores.unique`).
-/

namespace CpuIdent

/-- Room for 256 flags. -/
@[ext] structure FlagWords where
  word : Fin 4 → UInt64

namespace FlagWords

/-- The bit of a flag in its word. -/
def mask (place : Nat) : UInt64 := 1 <<< UInt64.ofNat (place % 64)

/-- No flags. -/
def zero : FlagWords := ⟨fun _ => 0⟩

/-- The words with a flag set. -/
def set (w : FlagWords) (place : Nat) : FlagWords :=
  ⟨fun k => if k.val = place / 64 then w.word k ||| mask place else w.word k⟩

/-- The words with a flag cleared. -/
def clear (w : FlagWords) (place : Nat) : FlagWords :=
  ⟨fun k => if k.val = place / 64 then w.word k &&& ~~~mask place else w.word k⟩

/-- Whether a flag is set. -/
def contains (w : FlagWords) (place : Nat) : Bool :=
  if h : place / 64 < 4 then w.word ⟨place / 64, h⟩ &&& mask place != 0 else false

/-- The ones in the words. -/
def len (w : FlagWords) : Nat := ((List.finRange 4).map fun k => FeatureSet.ones 64 (w.word k).toNat).foldr (· + ·) 0

/-- Whether no word has a one. -/
def isEmpty (w : FlagWords) : Bool := (List.finRange 4).all fun k => w.word k == 0

/-! ## Flags in their words -/

section

variable {w w' : FlagWords} {place : Nat}

/-- The mask of a place has one bit. -/
theorem toBitVec_mask (place : Nat) : (mask place).toBitVec = BitVec.twoPow 64 (place % 64) := by
  have hplace : place % 64 < 64 := Nat.mod_lt place (by decide)
  refine BitVec.eq_of_toNat_eq ?_
  rw [UInt64.toNat_toBitVec, mask, Bits.toNat_one_shiftLeft hplace, BitVec.toNat_twoPow,
    Nat.mod_eq_of_lt (Nat.pow_lt_pow_right (by decide) hplace)]

/-- The mask of a place picks its bit out. -/
theorem and_mask_ne_zero_iff (x : UInt64) (place : Nat) :
    x &&& mask place ≠ 0 ↔ x.toBitVec.getLsbD (place % 64) = true := by
  have hmask : BitVec.twoPow 64 (place % 64) ≠ 0#64 := fun hzero => by
    have hbit := congrArg (BitVec.getLsbD · (place % 64)) hzero
    simp [Nat.mod_lt place (by decide : 0 < 64)] at hbit
  rw [ne_eq, ← UInt64.toBitVec_inj, UInt64.toBitVec_and, toBitVec_mask, BitVec.and_twoPow]
  split
  · rename_i hbit
    exact ⟨fun _ => hbit, fun _ => hmask⟩
  · rename_i hbit
    exact ⟨fun hne => absurd rfl hne, fun h => absurd h hbit⟩

/-- A place below 256 is a bit of one of the four words. -/
theorem contains_eq_getLsbD (w : FlagWords) (h : place / 64 < 4) :
    w.contains place = (w.word ⟨place / 64, h⟩).toBitVec.getLsbD (place % 64) := by
  rw [contains, dif_pos h, Bool.eq_iff_iff, bne_iff_ne, and_mask_ne_zero_iff]

/-- Past the four words, nothing is stored. -/
theorem contains_of_le (w : FlagWords) (h : 256 ≤ place) : w.contains place = false :=
  dif_neg (by omega)

/-- Setting a flag sets that flag and no other, in its own word and across the words. -/
theorem contains_set (w : FlagWords) (h : place < 256) (q : Nat) :
    (w.set place).contains q = (w.contains q || decide (place = q)) := by
  by_cases hq : q / 64 < 4
  · rw [contains_eq_getLsbD _ hq, contains_eq_getLsbD w hq, set]
    by_cases hword : q / 64 = place / 64
    · have hsame : place % 64 = q % 64 ↔ place = q := by omega
      simp only [hword, if_true, UInt64.toBitVec_or, toBitVec_mask, BitVec.getLsbD_or, BitVec.getLsbD_twoPow,
        Nat.mod_lt place (by decide : 0 < 64), hsame, decide_true, Bool.true_and]
    · have hne : place ≠ q := fun heq => hword (heq ▸ rfl)
      simp only [hword, if_false, hne, decide_false, Bool.or_false]
  · have hne : place ≠ q := by omega
    rw [contains_of_le _ (by omega), contains_of_le w (by omega), decide_eq_false hne, Bool.or_false]

/-- Clearing a flag clears that flag and no other. -/
theorem contains_clear (w : FlagWords) (place q : Nat) :
    (w.clear place).contains q = (w.contains q && !decide (place = q)) := by
  by_cases hq : q / 64 < 4
  · have hmod : q % 64 < 64 := Nat.mod_lt q (by decide)
    rw [contains_eq_getLsbD _ hq, contains_eq_getLsbD w hq, clear]
    by_cases hword : q / 64 = place / 64
    · have hsame : place % 64 = q % 64 ↔ place = q := by omega
      simp only [hword, if_true, UInt64.toBitVec_and, UInt64.toBitVec_not, toBitVec_mask, BitVec.getLsbD_and,
        BitVec.getLsbD_not, BitVec.getLsbD_twoPow, Nat.mod_lt place (by decide : 0 < 64), hmod, hsame, decide_true,
        Bool.true_and]
    · have hne : place ≠ q := fun heq => hword (heq ▸ rfl)
      simp only [hword, if_false, hne, decide_false, Bool.not_false, Bool.and_true]
  · rw [contains_of_le _ (by omega), contains_of_le w (by omega), Bool.false_and]

/-- Words of zero store nothing. -/
theorem contains_zero (place : Nat) : zero.contains place = false := by
  by_cases h : place / 64 < 4
  · rw [contains_eq_getLsbD _ h, zero, UInt64.toBitVec_zero, BitVec.getLsbD_zero]
  · rw [contains, dif_neg h]

/-- Words that store the same places are the same. -/
theorem ext_contains (h : ∀ place, w.contains place = w'.contains place) : w = w' := by
  refine FlagWords.ext (funext fun k => UInt64.toBitVec_inj.1 (BitVec.eq_of_getLsbD_eq fun i hi => ?_))
  have hdiv : (64 * k.val + i) / 64 = k.val := by omega
  have hmod : (64 * k.val + i) % 64 = i := by omega
  have hplace := h (64 * k.val + i)
  rw [contains_eq_getLsbD w (by omega), contains_eq_getLsbD w' (by omega)] at hplace
  simpa only [hdiv, hmod] using hplace

/-- The length is the number of places that are stored. -/
theorem len_eq_countP (w : FlagWords) : w.len = (List.range 256).countP w.contains := by
  have hrange : List.range 256 = (List.finRange 4).flatMap fun k => (List.range 64).map fun i => 64 * k.val + i := by
    decide +kernel
  rw [hrange, List.countP_flatMap]
  refine congrArg (List.foldr (· + ·) 0) (List.map_congr_left fun k _ => ?_)
  rw [FeatureSet.ones_eq_countP, Function.comp_apply, List.countP_map]
  refine List.countP_congr fun i hi => ?_
  have hi := List.mem_range.1 hi
  have hdiv : (64 * k.val + i) / 64 = k.val := by omega
  have hmod : (64 * k.val + i) % 64 = i := by omega
  rw [Function.comp_apply, contains_eq_getLsbD w (by omega)]
  simp only [hdiv, hmod]
  rfl

/-- The words are empty just if no place is stored. -/
theorem isEmpty_iff : w.isEmpty = true ↔ ∀ place, w.contains place = false := by
  have hzero : w.isEmpty = true ↔ w = zero := by
    rw [isEmpty, List.all_eq_true]
    constructor
    · intro h
      exact FlagWords.ext (funext fun k => beq_iff_eq.1 (h k (List.mem_finRange k)))
    · rintro rfl k -
      rfl
  rw [hzero]
  constructor
  · rintro rfl place
    exact contains_zero place
  · intro h
    exact ext_contains fun place => (h place).trans (contains_zero place).symm

end

/-! ## Sets in words -/

variable {F : Type} [Feature F]

/-- The words hold the set: each feature in its place, and nothing in the places of no feature. -/
structure Stores (w : FlagWords) (s : FeatureSet F) : Prop where
  contains : ∀ f, w.contains (Feature.index f) = s.contains f
  undeclared : ∀ place, Feature.count F ≤ place → w.contains place = false

section

variable {w w' : FlagWords} {s : FeatureSet F}

/-- Words of zero store the empty set. -/
theorem stores_zero : zero.Stores (FeatureSet.empty : FeatureSet F) where
  contains := fun f => (contains_zero _).trans (FeatureSet.contains_empty f).symm
  undeclared := fun place _ => contains_zero place

/-- Setting the bit of a feature stores it. -/
theorem Stores.set (hcap : Feature.count F ≤ 256) (h : w.Stores s) (f : F) :
    (w.set (Feature.index f)).Stores (s.insert f) := by
  have hindex := Feature.index_lt f
  refine ⟨fun g => ?_, fun place hplace => ?_⟩
  · rw [contains_set w (Nat.lt_of_lt_of_le hindex hcap), h.contains, FeatureSet.contains_insert]
  · rw [contains_set w (Nat.lt_of_lt_of_le hindex hcap), h.undeclared place hplace, decide_eq_false (by omega), Bool.or_false]

/-- Clearing the bit of a feature removes it. -/
theorem Stores.clear (h : w.Stores s) (f : F) : (w.clear (Feature.index f)).Stores (s.erase f) := by
  refine ⟨fun g => ?_, fun place hplace => ?_⟩
  · rw [contains_clear, h.contains, FeatureSet.contains_erase]
  · rw [contains_clear, h.undeclared place hplace, Bool.false_and]

/-- A set is stored in one way only. -/
theorem Stores.unique (h : w.Stores s) (h' : w'.Stores s) : w = w' := by
  refine ext_contains fun place => ?_
  by_cases hplace : place < Feature.count F
  · obtain ⟨f, rfl⟩ := Feature.exists_index_eq hplace
    rw [h.contains, h'.contains]
  · rw [h.undeclared place (Nat.not_lt.1 hplace), h'.undeclared place (Nat.not_lt.1 hplace)]

/-- The words have as many bits as the set has members. -/
theorem Stores.len (hcap : Feature.count F ≤ 256) (h : w.Stores s) : w.len = s.size := by
  obtain ⟨rest, hrest⟩ := Nat.exists_eq_add_of_le hcap
  have hplaces : w.contains ∘ Feature.index = s.contains := funext h.contains
  have hnone : ((List.range rest).map fun i => Feature.count F + i).countP w.contains = 0 := by
    refine List.countP_eq_zero.2 fun place hplace => ?_
    obtain ⟨i, -, rfl⟩ := List.mem_map.1 hplace
    rw [h.undeclared _ (Nat.le_add_right _ _)]
    exact Bool.false_ne_true
  rw [len_eq_countP, hrest, List.range_add, List.countP_append, hnone, Nat.add_zero, ← Feature.map_index_all, List.countP_map,
    hplaces, FeatureSet.size_eq_length, FeatureSet.toList, List.countP_eq_length_filter]

/-- The words are empty just if the set is. -/
theorem Stores.isEmpty (h : w.Stores s) : w.isEmpty = s.isEmpty := by
  rw [Bool.eq_iff_iff, isEmpty_iff, FeatureSet.isEmpty_iff]
  constructor
  · intro hnone f
    rw [← h.contains, hnone]
  · intro hnone place
    by_cases hplace : place < Feature.count F
    · obtain ⟨f, rfl⟩ := Feature.exists_index_eq hplace
      rw [h.contains, hnone]
    · exact h.undeclared place (Nat.not_lt.1 hplace)

end

end FlagWords
end CpuIdent
