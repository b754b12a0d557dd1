import CpuIdent.Feature.LeafTable

/-!
# Levels in ascending order

Levels are gone through from the lowest up, and the last one before the first that fails is taken. It bounds exactly the
levels up to which none fails (`le_getLast_takeWhile_iff`). The x86-64 level of a set of features is taken in this way: it
is the highest level that the set meets together with all levels below it, so more features never lead to a lower one
(`ofX86_highest`).
-/

namespace CpuIdent
namespace FeatureLevel

/-! ## Ascending lists -/

/-- In an ascending list of levels above `base`, the last level before the first that fails is `base` or above it. -/
theorem base_le_getLast_takeWhile (p : FeatureLevel → Bool) {base : FeatureLevel} {w : List FeatureLevel}
    (hw : (base :: w).Pairwise (· < ·)) : base ≤ ((w.takeWhile p).getLast?).getD base := by
  cases h : (w.takeWhile p).getLast? with
  | none => exact Nat.le_refl _
  | some l =>
    have hl : l ∈ w := (List.takeWhile_sublist p).subset (List.mem_of_getLast? h)
    exact Nat.le_of_lt ((List.pairwise_cons.1 hw).1 l hl)

/-- In an ascending list of levels above `base`, the last level before the first that fails bounds exactly the levels up
to which every level of the list holds. -/
theorem le_getLast_takeWhile_iff (p : FeatureLevel → Bool) {base l : FeatureLevel} {w : List FeatureLevel}
    (hw : (base :: w).Pairwise (· < ·)) (hl : l ∈ w) :
    l ≤ ((w.takeWhile p).getLast?).getD base ↔ ∀ m ∈ w, m ≤ l → p m = true := by
  induction w generalizing base with
  | nil => simp at hl
  | cons a w ih =>
    obtain ⟨hbase, haw⟩ := List.pairwise_cons.1 hw
    obtain ⟨ha, -⟩ := List.pairwise_cons.1 haw
    have hbl : base < l := hbase l hl
    have hal : a ≤ l := by
      rcases List.mem_cons.1 hl with rfl | hl
      · exact Nat.le_refl _
      · exact Nat.le_of_lt (ha l hl)
    cases hp : p a with
    | false =>
      rw [List.takeWhile_cons_of_neg (by simp [hp])]
      constructor
      · intro h
        exact absurd h (Nat.not_le.2 hbl)
      · intro h
        exact absurd (h a List.mem_cons_self hal) (by simp [hp])
    | true =>
      rw [List.takeWhile_cons_of_pos hp, List.getLast?_cons, Option.getD_some]
      rcases List.mem_cons.1 hl with rfl | hlw
      · constructor
        · intro _ m hm hml
          rcases List.mem_cons.1 hm with rfl | hm
          · exact hp
          · exact absurd hml (Nat.not_le.2 (ha m hm))
        · intro _
          exact base_le_getLast_takeWhile p haw
      · rw [ih haw hlw]
        constructor
        · intro h m hm hml
          rcases List.mem_cons.1 hm with rfl | hm
          · exact hp
          · exact h m hm hml
        · intro h m hm hml
          exact h m (List.mem_cons_of_mem a hm) hml

/-- The last level before the first that fails is one of the list, or `base`. -/
theorem getLast_takeWhile_mem (p : FeatureLevel → Bool) (base : FeatureLevel) (w : List FeatureLevel) :
    ((w.takeWhile p).getLast?).getD base ∈ base :: w := by
  cases h : (w.takeWhile p).getLast? with
  | none => exact List.mem_cons_self
  | some l => exact List.mem_cons_of_mem _ ((List.takeWhile_sublist p).subset (List.mem_of_getLast? h))

/-! ## The x86-64 levels -/

/-- The x86-64 levels, from the lowest up. -/
def x86Levels : List FeatureLevel := [x86V1, x86V2, x86V3, x86V4]

/-- The features that an x86-64 level requires beyond those of the levels below it. -/
def demands : FeatureLevel → List X86Feature
  | x86V1 => [.cmov, .cx8, .fpu, .fxsr, .mmx, .sse, .sse2]
  | x86V2 => [.cx16, .lahfLm, .popcnt, .pni, .sse4_1, .sse4_2, .ssse3]
  | x86V3 => [.avx, .avx2, .bmi1, .bmi2, .f16c, .fma3, .abm, .movbe, .osxsave]
  | x86V4 => [.avx512f, .avx512bw, .avx512cd, .avx512dq, .avx512vl]
  | _ => []

/-- A set of features meets a level if it holds all that this level and every x86-64 level below it require. -/
def MetBy (l : FeatureLevel) (F : FeatureSet X86Feature) : Prop := ∀ m ∈ x86Levels, m ≤ l → ∀ f ∈ demands m, f ∈ F

instance (l : FeatureLevel) (F : FeatureSet X86Feature) : Decidable (MetBy l F) :=
  inferInstanceAs (Decidable (∀ m ∈ x86Levels, m ≤ l → ∀ f ∈ demands m, f ∈ F))

/-- The levels of x86 stand in their order, above the unknown level. -/
theorem x86Levels_sorted : (unknown :: x86Levels).Pairwise (· < ·) := by decide

/-- Each row of the requirements holds what its level demands. -/
theorem x86Requirements_eq : x86Requirements = x86Levels.map fun l => (l, demands l) := rfl

section

variable {F G : FeatureSet X86Feature} {l : FeatureLevel}

/-- The level is the last one up to which all demands are met, from the lowest on. -/
theorem ofX86_eq (F : FeatureSet X86Feature) :
    ofX86 F = ((x86Levels.takeWhile fun l => F.containsAll (demands l)).getLast?).getD unknown := by
  rw [ofX86, x86Requirements_eq, List.takeWhile_map, List.getLast?_map, Option.map_map]
  exact congrArg (fun o => Option.getD o unknown) Option.map_id'

/-- The level is one of x86, or unknown. -/
theorem ofX86_mem (F : FeatureSet X86Feature) : ofX86 F ∈ unknown :: x86Levels := by
  rw [ofX86_eq]
  exact getLast_takeWhile_mem _ _ _

/-- The level of a set reaches an x86-64 level exactly when the set meets it. -/
theorem le_ofX86_iff (hl : l ∈ x86Levels) : l ≤ ofX86 F ↔ MetBy l F := by
  rw [ofX86_eq, le_getLast_takeWhile_iff _ x86Levels_sorted hl]
  simp only [MetBy, FeatureSet.containsAll, List.all_eq_true, FeatureSet.mem_def]

/-- Levels that are not above each other are the same. -/
theorem eq_of_le_of_le {a b : FeatureLevel} (hab : a ≤ b) (hba : b ≤ a) : a = b := rank_injective (Nat.le_antisymm hab hba)

/-- The level of a set is unknown, or the set meets it. -/
theorem ofX86_eq_unknown_or (F : FeatureSet X86Feature) : ofX86 F = unknown ∨ ofX86 F ∈ x86Levels ∧ MetBy (ofX86 F) F := by
  rcases List.mem_cons.1 (ofX86_mem F) with h | h
  · exact Or.inl h
  · exact Or.inr ⟨h, (le_ofX86_iff h).1 (Nat.le_refl _)⟩

/-- The level is the highest that is met. -/
theorem ofX86_eq_iff (hl : l ∈ x86Levels) : ofX86 F = l ↔ MetBy l F ∧ ∀ m ∈ x86Levels, MetBy m F → m ≤ l := by
  constructor
  · rintro rfl
    exact ⟨(le_ofX86_iff hl).1 (Nat.le_refl _), fun m hm hmet => (le_ofX86_iff hm).2 hmet⟩
  · rintro ⟨hmet, hhighest⟩
    have hle : l ≤ ofX86 F := (le_ofX86_iff hl).2 hmet
    rcases ofX86_eq_unknown_or F with hunknown | ⟨hmem, hmet'⟩
    · have hlt : unknown < l := (List.pairwise_cons.1 x86Levels_sorted).1 l hl
      rw [hunknown] at hle
      exact absurd hle (Nat.not_le.2 hlt)
    · exact eq_of_le_of_le (hhighest _ hmem hmet') hle

/-- The lowest level has nothing below it to be met. -/
theorem metBy_x86V1_iff : MetBy x86V1 F ↔ ∀ f ∈ demands x86V1, f ∈ F := by
  constructor
  · intro h
    exact h x86V1 (by decide) (Nat.le_refl _)
  · intro h m hm hle
    obtain rfl : m = x86V1 := by
      revert hle
      revert m
      decide
    exact h

/-- The level is unknown just if a demand of the lowest one is not met. -/
theorem ofX86_eq_unknown_iff : ofX86 F = unknown ↔ ∃ f ∈ demands x86V1, f ∉ F := by
  have hfirst : ofX86 F = unknown ↔ ¬ x86V1 ≤ ofX86 F := by
    have hmem := ofX86_mem F
    revert hmem
    generalize ofX86 F = l
    revert l
    decide
  rw [hfirst, le_ofX86_iff (by decide), metBy_x86V1_iff]
  simp only [Classical.not_forall, exists_prop]

/-- A set that holds every demanded feature that another holds is not of a lower level. -/
theorem ofX86_le_of_demands (h : ∀ l ∈ x86Levels, ∀ f ∈ demands l, f ∈ F → f ∈ G) : ofX86 F ≤ ofX86 G := by
  rcases ofX86_eq_unknown_or F with hunknown | ⟨hmem, hmet⟩
  · rw [hunknown]
    exact Nat.zero_le _
  · exact (le_ofX86_iff hmem).2 fun m hm hle f hf => h m hm f hf (hmet m hm hle f hf)

/-- No level demands hyperthreading. -/
theorem ofX86_erase_ht (F : FeatureSet X86Feature) : ofX86 (F.erase .ht) = ofX86 F := by
  have hdemands : ∀ l ∈ x86Levels, ∀ f ∈ demands l, f ≠ .ht := by decide
  refine eq_of_le_of_le (ofX86_le_of_demands fun l hl f hf hmem => ?_) (ofX86_le_of_demands fun l hl f hf hmem => ?_)
  · exact (FeatureSet.mem_erase.1 hmem).1
  · exact FeatureSet.mem_erase.2 ⟨hmem, hdemands l hl f hf⟩

end

/-- The x86-64 level of a set of features is the highest that the set meets, and unknown if a feature of the first level is missing.
So a set that holds all of another is not of a lower level, and clearing the flag of hyperthreading changes no level. -/
theorem ofX86_highest (F : FeatureSet X86Feature) :
    ofX86 F ∈ unknown :: x86Levels ∧
    (∀ l ∈ x86Levels, ofX86 F = l ↔ MetBy l F ∧ ∀ m ∈ x86Levels, MetBy m F → m ≤ l) ∧
    (ofX86 F = unknown ↔ ∃ f ∈ demands x86V1, f ∉ F) ∧
    (∀ G : FeatureSet X86Feature, (∀ f ∈ F, f ∈ G) → ofX86 F ≤ ofX86 G) ∧
    ofX86 (F.erase .ht) = ofX86 F :=
  ⟨ofX86_mem F, fun _ hl => ofX86_eq_iff hl, ofX86_eq_unknown_iff,
    fun _ hsub => ofX86_le_of_demands fun _ _ f _ hf => hsub f hf, ofX86_erase_ht F⟩

/-- Without one feature of the second level, all those of the third lead no higher than to the first. -/
theorem ofX86_highest_gap :
    let F : FeatureSet X86Feature := .ofList (demands x86V1 ++ (demands x86V2).tail ++ demands x86V3)
    let G : FeatureSet X86Feature := F.insert .cx16
    (∀ f ∈ F, f ∈ G) ∧ ofX86 F = x86V1 ∧ ofX86 G = x86V3 ∧ ofX86 F ≤ ofX86 G := by
  intro F G
  have hsub : ∀ f ∈ F, f ∈ G := fun f hf => FeatureSet.mem_insert.2 (Or.inr hf)
  obtain ⟨-, hlevel, -, hmono, -⟩ := ofX86_highest F
  obtain ⟨-, hlevel', -⟩ := ofX86_highest G
  exact ⟨hsub, (hlevel x86V1 (by decide)).2 (by decide +kernel), (hlevel' x86V3 (by decide)).2 (by decide +kernel), hmono G hsub⟩

end FeatureLevel
end CpuIdent
