import CpuIdent.Proofs.Arm.Knowledge
import CpuIdent.Proofs.Arm.Reachable

/-!
# Grounds of levels

The levels that can be reached, traced back to the rules on single fields. Such a level stands on grounds
(`Listing.grounds`), lists of rules of which one must hold: each mandatory rule by itself, some feature that v8.0 lists,
and some algorithm of pointer authentication for v8.3. It is justified when a rule of each ground holds
(`Listing.justified_iff_grounds`), and reached when it is justified and so are the levels below it
(`ArmRegisters.Climbs.le_level_iff`).
-/

namespace CpuIdent

namespace Listing

/-- The levels that can be reached. -/
def reachable : List FeatureLevel := [.armV8_0A, .armV8_1A, .armV8_2A, .armV8_3A]

/-- Lists of rules, of each of which one is enough: those of the features of v8.0, and those of the algorithms of pointer
authentication for v8.3. -/
def choices : FeatureLevel → List (List FeatureRule)
  | .armV8_0A => [FeatureRule.all.filter fun r => r.optionalFrom = some .armV8_0A]
  | .armV8_3A => [FeatureRule.all.filter fun r => r.feature ∈ Finding.algorithms]
  | _ => []

/-- Lists of rules, of each of which one must hold for the level: the mandatory ones each by itself, and the choices. -/
def grounds (l : FeatureLevel) : List (List FeatureRule) :=
  ((FeatureRule.all.filter fun r => r.mandatoryFrom = some l).map fun r => [r]) ++ choices l

section

variable {l : FeatureLevel} {f : ArmFeature}

/-- A listing is that of a rule, or derived. -/
theorem exists_listing_iff (P : Listing → Prop) :
    (∃ e ∈ all, P e) ↔ (∃ r ∈ FeatureRule.all, P r.listing) ∨ ∃ e ∈ derived, P e := by
  simp [all, or_and_right, exists_or]

/-- The mandatory features are told by rules, but for pointer authentication, which v8.3 requires. -/
theorem mem_mandatoryAt_iff :
    f ∈ mandatoryAt l ↔ (∃ r ∈ FeatureRule.all, r.mandatoryFrom = some l ∧ r.feature = f) ∨ l = .armV8_3A ∧ f = .pauth := by
  refine mem_mandatoryAt.trans ((exists_listing_iff _).trans (or_congr Iff.rfl ?_))
  simp [derived, eq_comm]

/-- Nothing is mandatory for v8.0. -/
theorem mandatoryAt_v8_0 : mandatoryAt .armV8_0A = [] := by
  decide +kernel

/-- What v8.0 lists as optional is told by rules on single fields. -/
theorem mem_optionalAt_v8_0_iff :
    f ∈ optionalAt .armV8_0A ↔ ∃ r ∈ FeatureRule.all, r.optionalFrom = some .armV8_0A ∧ r.feature = f := by
  refine mem_optionalAt.trans ((exists_listing_iff _).trans (or_iff_left ?_))
  simp [derived]

end

end Listing

/-- Pointer authentication is told by the rules of its algorithms. -/
theorem Finding.pauth_mem_flags_iff (regs : ArmRegisters) :
    .pauth ∈ flags (all regs) ↔ ∃ r ∈ FeatureRule.all, r.feature ∈ algorithms ∧ r.holds regs = true := by
  have hrules : ¬ .pauth ∈ flags (ofRules regs) := not_mem_flags_ofRules (by decide +kernel)
  have halgorithms : .pauth ∈ flags (all regs) ↔ ∃ g ∈ algorithms, g ∈ flags (ofRules regs) := by
    simp [mem_flags_all, mem_flags_parts, mem_flags_mpam, mem_flags_mteParts, hrules]
  rw [halgorithms]
  constructor
  · rintro ⟨g, hg, hflag⟩
    obtain ⟨r, hr, rfl, hholds⟩ := mem_flags_ofRules.1 hflag
    exact ⟨r, hr, hg, hholds⟩
  · rintro ⟨r, hr, hg, hholds⟩
    exact ⟨r.feature, hg, mem_flags_ofRules.2 ⟨r, hr, rfl, hholds⟩⟩

namespace Listing

section

variable (regs : ArmRegisters) {l : FeatureLevel}

/-- The flags hold the mandatory features of a level exactly when its rules hold, and for v8.3 some algorithm does. -/
theorem mandatory_mem_iff (l : FeatureLevel) :
    (∀ f ∈ mandatoryAt l, f ∈ Finding.flags (Finding.all regs)) ↔
      (∀ r ∈ FeatureRule.all, r.mandatoryFrom = some l → r.holds regs = true) ∧
        (l = .armV8_3A → ∃ r ∈ FeatureRule.all, r.feature ∈ Finding.algorithms ∧ r.holds regs = true) := by
  rw [← Finding.pauth_mem_flags_iff]
  simp only [mem_mandatoryAt_iff]
  constructor
  · intro h
    refine ⟨fun r hr hm => ?_, fun hl => h .pauth (Or.inr ⟨hl, rfl⟩)⟩
    exact (Finding.mem_flags_iff_holds regs hr).1 (h r.feature (Or.inl ⟨r, hr, hm, rfl⟩))
  · rintro ⟨hrules, hpauth⟩ f (⟨r, hr, hm, rfl⟩ | ⟨hl, rfl⟩)
    · exact (Finding.mem_flags_iff_holds regs hr).2 (hrules r hr hm)
    · exact hpauth hl

/-- The flags hold evidence of v8.0 exactly when the rule of a feature that it lists holds. -/
theorem exists_optional_v8_0_iff :
    (∃ f ∈ optionalAt .armV8_0A, f ∈ Finding.flags (Finding.all regs)) ↔
      ∃ r ∈ FeatureRule.all, r.optionalFrom = some .armV8_0A ∧ r.holds regs = true := by
  simp only [mem_optionalAt_v8_0_iff]
  constructor
  · rintro ⟨f, ⟨r, hr, ho, rfl⟩, hf⟩
    exact ⟨r, hr, ho, (Finding.mem_flags_iff_holds regs hr).1 hf⟩
  · rintro ⟨r, hr, ho, hholds⟩
    exact ⟨r.feature, ⟨r, hr, ho, rfl⟩, (Finding.mem_flags_iff_holds regs hr).2 hholds⟩

/-- The grounds of a level are its mandatory rules, each alone, and its choices. -/
theorem forall_mem_grounds_iff (P : List FeatureRule → Prop) :
    (∀ rules ∈ grounds l, P rules) ↔
      (∀ r ∈ FeatureRule.all, r.mandatoryFrom = some l → P [r]) ∧ ∀ rules ∈ choices l, P rules := by
  rw [grounds, List.forall_mem_append, List.forall_mem_map]
  simp

/-- Grounds are made of rules of the table. -/
theorem mem_all_of_mem_grounds {rules : List FeatureRule} (hrules : rules ∈ grounds l) {r : FeatureRule} (hr : r ∈ rules) :
    r ∈ FeatureRule.all := by
  refine (forall_mem_grounds_iff fun rules => ∀ r ∈ rules, r ∈ FeatureRule.all).2 ⟨?_, ?_⟩ rules hrules r hr
  · intro r hr _
    simpa using hr
  · unfold choices
    split <;> simp +contextual

/-- A level that can be reached is justified exactly when a rule of each of its grounds holds. -/
theorem justified_iff_grounds (hl : l ∈ reachable) :
    Justified (Finding.flags (Finding.all regs)) l ↔ ∀ rules ∈ grounds l, ∃ r ∈ rules, r.holds regs = true := by
  have hsome : ∀ l ∈ [FeatureLevel.armV8_1A, .armV8_2A, .armV8_3A], mandatoryAt l ≠ [] := by decide +kernel
  unfold Justified
  rw [mandatory_mem_iff, forall_mem_grounds_iff]
  simp only [reachable, List.mem_cons, List.not_mem_nil, or_false] at hl
  rcases hl with rfl | rfl | rfl | rfl
  · rw [exists_optional_v8_0_iff]
    simp [choices, mandatoryAt_v8_0, and_assoc]
  · simp [choices, hsome]
  · simp [choices, hsome]
  · simp [choices, hsome, and_assoc]

/-- The flags justify v8.0 by evidence alone. -/
theorem justified_v8_0_iff (regs : ArmRegisters) : Justified (Finding.flags (Finding.all regs)) .armV8_0A ↔
    ∃ f ∈ optionalAt .armV8_0A, f ∈ Finding.flags (Finding.all regs) := by
  simp [Justified, mandatoryAt_v8_0]

end

end Listing

/-! ## Levels -/

/-- The level found for a register file. -/
def ArmRegisters.level (regs : ArmRegisters) : FeatureLevel := FeatureLevel.ofArm regs (LevelTally.ofFindings (Finding.all regs))

/-- The core has AArch64 registers, and its architecture code is unknown or defers to them. -/
structure ArmRegisters.Climbs (regs : ArmRegisters) : Prop where
  view : regs.hasAarch64View = true
  code : ∀ w, regs .midr = some w → Bits.field w 19 16 = 0xF

namespace ArmRegisters.Climbs

variable {regs : ArmRegisters}

/-- A core that climbs is at a level that can be reached. -/
theorem level_mem (h : regs.Climbs) : regs.level ∈ .unknown :: Listing.reachable := by
  rw [level, FeatureLevel.ofArm_eq_ofAProfile h.view h.code]
  exact FeatureLevel.ofAProfile_mem_upToV8_3 regs

/-- A level that can be reached is reached exactly when it is justified and so are those below it. -/
theorem le_level_iff (h : regs.Climbs) {l : FeatureLevel} (hl : l ∈ Listing.reachable) :
    l ≤ regs.level ↔ ∀ m ∈ Listing.reachable, m ≤ l → Listing.Justified (Finding.flags (Finding.all regs)) m := by
  have hwalk : ∀ flags, ∀ m ∈ Listing.reachable, m ∈ Listing.walk flags := by
    intro flags m hm
    exact List.mem_append_left _ ((by decide : ∀ m ∈ Listing.reachable, m ∈ FeatureLevel.climbStart) m hm)
  have hlow : ∀ flags, ∀ m ∈ Listing.walk flags, m ≤ l → m ∈ Listing.reachable := by
    intro flags
    unfold Listing.walk
    split <;> revert l <;> decide
  rw [level, FeatureLevel.ofArm_eq_ofAProfile h.view h.code, FeatureLevel.le_ofAProfile_iff (hwalk _ l hl)]
  exact ⟨fun hall m hm => hall m (hwalk _ m hm), fun hall m hm hle => hall m (hlow _ m hm hle) hle⟩

/-- A level that is reached is justified. -/
theorem justified_of_le (h : regs.Climbs) {l : FeatureLevel} (hl : l ∈ Listing.reachable) (hle : l ≤ regs.level) :
    Listing.Justified (Finding.flags (Finding.all regs)) l := (h.le_level_iff hl).1 hle l hl (Nat.le_refl _)

end ArmRegisters.Climbs
end CpuIdent
