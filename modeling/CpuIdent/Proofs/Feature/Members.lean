import CpuIdent.Report
import Mathlib.Algebra.Group.Nat.Defs
import Mathlib.Data.Finset.Card

/-!
# Members of feature sets

A set of features stands for the finite set of its members (`FeatureSet.Represents`): everything that is asked of it is a
fact about the members. They are as many as the ones among its bits (`FeatureSet.size_eq_length`), sets with the same
members are the same (`FeatureSet.ext_contains`), and no name is listed twice (`FeatureSet.nodup_names`).
-/

namespace CpuIdent

/-! ## Enumerations -/

namespace Feature

section

variable {F : Type} [Feature F]

/-- The indices are the numbers from zero on, in the order of the list. -/
theorem map_index_all : (all (F := F)).map index = List.range (count F) := by
  refine List.ext_getElem (by rw [List.length_map, List.length_range, count]) fun i h h' => ?_
  rw [List.getElem_map, List.getElem_range, index_all]

/-- No feature is listed twice. -/
theorem nodup_all : (all (F := F)).Nodup := by
  refine List.Nodup.of_map index ?_
  rw [map_index_all]
  exact List.nodup_range

/-- Every number below the count is an index. -/
theorem exists_index_eq {i : Nat} (h : i < count F) : ∃ f : F, index f = i := ⟨_, index_all i h⟩

end

/-! ### Names

The names of an enumeration differ by their fingerprints already. These are compared as the bits of one number, since to
compare the names pair by pair would take long. -/

/-- A number of sixteen bits for a text. -/
def fingerprint (text : String) : Nat := text.toByteArray.data.toList.foldl (fun h b => (31 * h + b.toNat) % 2 ^ 16) 0

/-- Whether numbers are new and differ from each other, where the bits of a number tell which are not new. -/
def distinct : (met : Nat) → List Nat → Bool
  | _, [] => true
  | met, n :: ns => !met.testBit n && distinct (met ||| 2 ^ n) ns

/-- Numbers that pass the test are distinct, and new to the set that was met before. -/
theorem distinct_spec {met : Nat} {ns : List Nat} (h : distinct met ns = true) :
    ns.Nodup ∧ ∀ n ∈ ns, met.testBit n = false := by
  induction ns generalizing met with
  | nil => exact ⟨List.nodup_nil, nofun⟩
  | cons n ns ih =>
    rw [distinct, Bool.and_eq_true, Bool.not_eq_true'] at h
    obtain ⟨hnodup, hnew⟩ := ih h.2
    have hor : ∀ m ∈ ns, met.testBit m = false ∧ n ≠ m := fun m hm => by
      have hm' := hnew m hm
      rw [Nat.testBit_or, Nat.testBit_two_pow, Bool.or_eq_false_iff, decide_eq_false_iff_not] at hm'
      exact hm'
    refine ⟨List.nodup_cons.2 ⟨fun hmem => (hor n hmem).2 rfl, hnodup⟩, List.forall_mem_cons.2 ⟨h.1, fun m hm => (hor m hm).1⟩⟩

/-- Texts with distinct fingerprints are distinct. -/
theorem nodup_of_fingerprints {texts : List String} (h : distinct 0 (texts.map fingerprint) = true) : texts.Nodup :=
  List.Nodup.of_map fingerprint (distinct_spec h).1

end Feature

/-- No two features of x86 have the same name. -/
theorem X86Feature.nodup_names : ((Feature.all (F := X86Feature)).map Feature.name).Nodup :=
  Feature.nodup_of_fingerprints (by decide +kernel)

theorem ArmFeature.nodup_names : ((Feature.all (F := ArmFeature)).map Feature.name).Nodup :=
  Feature.nodup_of_fingerprints (by decide +kernel)

namespace FeatureSet

/-! ## Bits and members -/

variable {F : Type} [Feature F] {s t : FeatureSet F}

/-- Sets with the same members are the same. -/
theorem ext_contains (h : ∀ f, s.contains f = t.contains f) : s = t := by
  refine FeatureSet.ext (BitVec.eq_of_getLsbD_eq fun i hi => ?_)
  obtain ⟨f, rfl⟩ := Feature.exists_index_eq hi
  exact h f

/-- The listed features are the members. -/
theorem mem_toList {f : F} : f ∈ s.toList ↔ s.contains f = true := by
  rw [toList, List.mem_filter]
  exact and_iff_right (Feature.mem_all f)

/-- No member is listed twice. -/
theorem nodup_toList (s : FeatureSet F) : s.toList.Nodup := Feature.nodup_all.filter _

/-- Counting bits is counting the places where a bit is set. -/
theorem ones_eq_countP (w n : Nat) : ones w n = (List.range w).countP n.testBit := by
  induction w generalizing n with
  | zero => rfl
  | succ w ih =>
    have hshift : n.testBit ∘ Nat.succ = (n / 2).testBit := funext fun i => Nat.testBit_succ n i
    rw [ones, ih, List.range_succ_eq_map, List.countP_cons, List.countP_map, hshift, Nat.testBit_zero]
    rcases Nat.mod_two_eq_zero_or_one n with h | h <;> simp [h, Nat.add_comm]

/-- There are as many members as ones among the bits. -/
theorem size_eq_length (s : FeatureSet F) : s.size = s.toList.length := by
  have hbits : s.contains = s.bits.toNat.testBit ∘ Feature.index := rfl
  rw [size, ones_eq_countP, ← Feature.map_index_all, List.countP_map, ← hbits, List.countP_eq_length_filter, toList]

/-- A set is empty just if it has no member. -/
theorem isEmpty_iff : s.isEmpty = true ↔ ∀ f, s.contains f = false := by
  rw [isEmpty, beq_iff_eq]
  constructor
  · intro h f
    obtain rfl : s = empty := FeatureSet.ext h
    exact contains_empty f
  · intro h
    exact congrArg bits (ext_contains (t := empty) fun f => (h f).trans (contains_empty f).symm)

/-- The names of the members are distinct where those of all features are. -/
theorem nodup_names (hnames : ((Feature.all (F := F)).map Feature.name).Nodup) (s : FeatureSet F) : s.names.Nodup :=
  hnames.sublist (List.Sublist.map _ List.filter_sublist)

/-! ## The set of the members -/

variable [DecidableEq F]

/-- The set has exactly the members of `S`, and answers every question accordingly. -/
structure Represents (s : FeatureSet F) (S : Finset F) : Prop where
  contains : ∀ f, s.contains f = true ↔ f ∈ S
  containsAll : ∀ fs : List F, s.containsAll fs = true ↔ fs.toFinset ⊆ S
  /-- The size counts the members. -/
  size : s.size = S.card
  isEmpty : s.isEmpty = true ↔ S = ∅
  /-- The members are listed in the order of the enumeration. -/
  toList : s.toList = Feature.all.filter (· ∈ S)
  length_toList : s.toList.length = S.card
  names : s.names = (Feature.all.filter (· ∈ S)).map Feature.name
  length_names : s.names.length = S.card
  nodup_names : s.names.Nodup
  /-- As many names are written as the size says. -/
  written : ∃ names, Report.features s = .array names ∧ names.length = s.size

/-- A set represents its members: in size, in emptiness, in its list and in its names. -/
theorem represents {S : Finset F} (hnames : ((Feature.all (F := F)).map Feature.name).Nodup)
    (h : ∀ f, s.contains f = true ↔ f ∈ S) : s.Represents S := by
  have hlist : s.toList.toFinset = S := by
    ext f
    rw [List.mem_toFinset, mem_toList, h]
  have hlength : s.toList.length = S.card := by rw [← hlist, List.toFinset_card_of_nodup s.nodup_toList]
  have hfilter : s.toList = Feature.all.filter (· ∈ S) :=
    List.filter_congr fun f _ => by rw [Bool.eq_iff_iff, h, decide_eq_true_iff]
  refine
    { contains := h
      containsAll := fun fs => ?_
      size := s.size_eq_length.trans hlength
      isEmpty := ?_
      toList := hfilter
      length_toList := hlength
      names := congrArg (List.map Feature.name) hfilter
      length_names := by rw [names, List.length_map, hlength]
      nodup_names := s.nodup_names hnames
      written := ⟨_, rfl, ?_⟩ }
  · simp only [FeatureSet.containsAll, List.all_eq_true, h, Finset.subset_iff, List.mem_toFinset]
  · simp only [isEmpty_iff, Finset.eq_empty_iff_forall_notMem, ← h, Bool.not_eq_true]
  · rw [List.length_map, names, List.length_map, size_eq_length]

end FeatureSet
end CpuIdent
