import CpuIdent.Arm.Level
import CpuIdent.Proofs.Arm.Listing
import CpuIdent.Proofs.Feature.Levels

/-!
# Climbing the levels of the A-profile

Levels are decided by counting findings; here they are decided by the flags alone. A level is justified when its
mandatory features are all among the flags and it lists a mandatory feature or a present optional one
(`Listing.Justified`), and counting comes to the same (`passes_iff_justified`). A climb then reaches exactly the
levels up to which every level on the way is justified (`le_ofArm_iff_justified`).
-/

namespace CpuIdent

namespace Listing

/-- The flags justify a level: they hold its mandatory features, and give evidence of the level at all. -/
def Justified (flags : FeatureSet ArmFeature) (l : FeatureLevel) : Prop :=
  (∀ f ∈ mandatoryAt l, f ∈ flags) ∧ (mandatoryAt l ≠ [] ∨ ∃ f ∈ optionalAt l, f ∈ flags)

/-- The flags hold a feature that a level lists. -/
def Evident (flags : FeatureSet ArmFeature) (l : FeatureLevel) : Prop := ∃ f ∈ optionalAt l ++ mandatoryAt l, f ∈ flags

instance (flags : FeatureSet ArmFeature) (l : FeatureLevel) : Decidable (Justified flags l) :=
  inferInstanceAs (Decidable (_ ∧ _))

instance (flags : FeatureSet ArmFeature) (l : FeatureLevel) : Decidable (Evident flags l) :=
  inferInstanceAs (Decidable (∃ f ∈ optionalAt l ++ mandatoryAt l, f ∈ flags))

/-- The levels to walk, in order: v8.0 to v8.5, and then those of v9 if v9.0 is evident, else the rest of v8. -/
def walk (flags : FeatureSet ArmFeature) : List FeatureLevel :=
  [.armV8_0A, .armV8_1A, .armV8_2A, .armV8_3A, .armV8_4A, .armV8_5A] ++
    if Evident flags .armV9_0A then [.armV9_0A, .armV9_1A, .armV9_2A, .armV9_3A, .armV9_4A]
    else [.armV8_6A, .armV8_7A, .armV8_8A, .armV8_9A]

/-- The levels of a walk stand in their order, above the unknown level. -/
theorem walk_sorted (flags : FeatureSet ArmFeature) : (FeatureLevel.unknown :: walk flags).Pairwise (· < ·) := by
  unfold walk
  split <;> decide

end Listing

/-! ## Counting -/

/-- As many elements satisfy both tests as satisfy the first one exactly when the second holds wherever the first does. -/
theorem countP_and_eq_iff {α : Type} (p q : α → Bool) (xs : List α) :
    xs.countP (fun x => p x && q x) = xs.countP p ↔ ∀ x ∈ xs, p x = true → q x = true := by
  have hboth : xs.countP (fun x => p x && q x) = (xs.filter p).countP q := by
    rw [List.countP_filter]
    exact congrArg (fun t => xs.countP t) (funext fun x => Bool.and_comm _ _)
  rw [hboth, List.countP_eq_length_filter (p := p), List.countP_eq_length]
  simp

namespace LevelTally

/-- All mandatory findings of a level are present just if each of them is. -/
theorem present_mandatory_eq_total_iff (found : List Finding) (l : FeatureLevel) :
    (ofFindings found).present.mandatory l = (ofFindings found).total.mandatory l ↔
      ∀ x ∈ found, x.mandatoryFrom = some l → x.present = true := by
  simpa [ofFindings] using countP_and_eq_iff (fun x : Finding => x.mandatoryFrom == some l) Finding.present found

/-- A level has a positive count of mandatory findings just if there is one. -/
theorem total_mandatory_pos_iff (found : List Finding) (l : FeatureLevel) :
    0 < (ofFindings found).total.mandatory l ↔ ∃ x ∈ found, x.mandatoryFrom = some l := by
  simp [ofFindings, List.countP_pos_iff]

/-- Some optional finding of a level is counted as present just if one is present. -/
theorem present_optional_pos_iff (found : List Finding) (l : FeatureLevel) :
    0 < (ofFindings found).present.optional l ↔ ∃ x ∈ found, x.optionalFrom = some l ∧ x.present = true := by
  simp [ofFindings, List.countP_pos_iff]

/-- Some mandatory finding of a level is counted as present just if one is present. -/
theorem present_mandatory_pos_iff (found : List Finding) (l : FeatureLevel) :
    0 < (ofFindings found).present.mandatory l ↔ ∃ x ∈ found, x.mandatoryFrom = some l ∧ x.present = true := by
  simp [ofFindings, List.countP_pos_iff]

/-! ## Counts and flags -/

section

variable (regs : ArmRegisters) (l : FeatureLevel)

/-- All mandatory features of a level are found present exactly when all of them are among the flags. -/
theorem mandatory_present_iff :
    (∀ x ∈ Finding.all regs, x.mandatoryFrom = some l → x.present = true) ↔
      ∀ f ∈ Listing.mandatoryAt l, f ∈ Finding.flags (Finding.all regs) := by
  constructor
  · intro h f hf
    obtain ⟨e, he, hm, rfl⟩ := Listing.mem_mandatoryAt.1 hf
    obtain ⟨x, hx, rfl⟩ := Finding.exists_finding_of_mandatory regs he (by simp [hm])
    exact (Finding.mem_flags_iff_present hx).2 (h x hx hm)
  · intro h x hx hm
    exact (Finding.mem_flags_iff_present hx).1
      (h x.feature (Listing.mem_mandatoryAt.2 ⟨x.listing, Finding.listing_mem hx, hm, rfl⟩))

/-- A level requires something that was asked for exactly when it lists a mandatory feature. -/
theorem exists_mandatory_iff : (∃ x ∈ Finding.all regs, x.mandatoryFrom = some l) ↔ Listing.mandatoryAt l ≠ [] := by
  constructor
  · rintro ⟨x, hx, hm⟩
    exact List.ne_nil_of_mem (Listing.mem_mandatoryAt.2 ⟨x.listing, Finding.listing_mem hx, hm, rfl⟩)
  · intro h
    obtain ⟨f, hf⟩ := List.exists_mem_of_ne_nil _ h
    obtain ⟨e, he, hm, -⟩ := Listing.mem_mandatoryAt.1 hf
    obtain ⟨x, hx, rfl⟩ := Finding.exists_finding_of_mandatory regs he (by simp [hm])
    exact ⟨x, hx, hm⟩

/-- An optional feature of a level is found present exactly when one of them is among the flags. -/
theorem exists_optional_present_iff :
    (∃ x ∈ Finding.all regs, x.optionalFrom = some l ∧ x.present = true) ↔
      ∃ f ∈ Listing.optionalAt l, f ∈ Finding.flags (Finding.all regs) := by
  refine (Finding.exists_present_iff regs fun e => e.optionalFrom = some l).trans ?_
  simp only [Listing.mem_optionalAt]
  grind

/-- A mandatory feature of a level is found present exactly when one of them is among the flags. -/
theorem exists_mandatory_present_iff :
    (∃ x ∈ Finding.all regs, x.mandatoryFrom = some l ∧ x.present = true) ↔
      ∃ f ∈ Listing.mandatoryAt l, f ∈ Finding.flags (Finding.all regs) := by
  refine (Finding.exists_present_iff regs fun e => e.mandatoryFrom = some l).trans ?_
  simp only [Listing.mem_mandatoryAt]
  grind

/-- A level passes by its counts exactly when the flags justify it. -/
theorem passes_iff_justified :
    (ofFindings (Finding.all regs)).passes l = true ↔ Listing.Justified (Finding.flags (Finding.all regs)) l := by
  unfold passes Listing.Justified
  rw [Bool.and_eq_true, beq_iff_eq, Bool.or_eq_true, decide_eq_true_iff, decide_eq_true_iff, gt_iff_lt, gt_iff_lt,
    present_mandatory_eq_total_iff, total_mandatory_pos_iff, present_optional_pos_iff, mandatory_present_iff,
    exists_mandatory_iff, exists_optional_present_iff]

/-- A level shows evidence by its counts exactly when the flags hold a feature that it lists. -/
theorem hasEvidence_iff_evident :
    (ofFindings (Finding.all regs)).hasEvidence l = true ↔ Listing.Evident (Finding.flags (Finding.all regs)) l := by
  unfold hasEvidence Listing.Evident
  rw [Bool.or_eq_true, decide_eq_true_iff, decide_eq_true_iff, gt_iff_lt, gt_iff_lt, present_optional_pos_iff,
    present_mandatory_pos_iff, exists_optional_present_iff, exists_mandatory_present_iff]
  simp only [List.mem_append, or_and_right, exists_or]

end

end LevelTally

namespace FeatureLevel

/-! ## Climbing -/

section

variable {regs : ArmRegisters}

/-- The levels that the counts lead through are those that the flags lead through. -/
theorem climb_eq_walk (regs : ArmRegisters) :
    climb (LevelTally.ofFindings (Finding.all regs)) = Listing.walk (Finding.flags (Finding.all regs)) := by
  unfold climb climbStart Listing.walk
  simp only [LevelTally.hasEvidence_iff_evident]

/-- A core with the AArch64 registers, whose architecture code is unknown or defers to them, is told by the climb. -/
theorem ofArm_eq_ofAProfile (hview : regs.hasAarch64View = true)
    (hcode : ∀ w, regs .midr = some w → Bits.field w 19 16 = 0xF) (t : LevelTally) : ofArm regs t = ofAProfile t := by
  unfold ofArm
  cases hm : regs .midr with
  | none => simp [ofArm.ofRegisters, hview]
  | some w => simp [hcode w hm, ofArm.ofRegisters, hview]

/-- The level reached by a climb is one of those on the way, or unknown. -/
theorem ofAProfile_mem (t : LevelTally) : ofAProfile t ∈ unknown :: climb t :=
  getLast_takeWhile_mem _ _ _

/-- The level reached by a climb, level by level: a level on the way is reached exactly when the flags justify it and
all those before it. -/
theorem le_ofAProfile_iff {l : FeatureLevel} (hl : l ∈ Listing.walk (Finding.flags (Finding.all regs))) :
    l ≤ ofAProfile (LevelTally.ofFindings (Finding.all regs)) ↔
      ∀ m ∈ Listing.walk (Finding.flags (Finding.all regs)), m ≤ l → Listing.Justified (Finding.flags (Finding.all regs)) m := by
  unfold ofAProfile
  rw [climb_eq_walk, le_getLast_takeWhile_iff _ (Listing.walk_sorted _) hl]
  simp only [LevelTally.passes_iff_justified]

/-- Without the first level, the climb reaches none. -/
theorem ofAProfile_eq_unknown (h : ¬ Listing.Justified (Finding.flags (Finding.all regs)) armV8_0A) :
    ofAProfile (LevelTally.ofFindings (Finding.all regs)) = unknown := by
  have hfail : ¬ (LevelTally.ofFindings (Finding.all regs)).passes armV8_0A = true := by
    rw [LevelTally.passes_iff_justified]
    exact h
  unfold ofAProfile climb climbStart
  rw [List.cons_append, List.takeWhile_cons_of_neg hfail]
  rfl

end

/-! ## The level of a core -/

/-- A core whose architecture code defers to the other registers, and whose AArch64 registers are all known: zero,
unless given. -/
def core (given : List (ArmRegister × UInt64)) : ArmRegisters := fun r =>
  if r = .midr then some 0xF0000
  else if r.isAarch64Only then some ((given.lookup r).getD 0)
  else none

/-- A core of the examples shows its AArch64 registers. -/
theorem hasAarch64View_core (given : List (ArmRegister × UInt64)) : (core given).hasAarch64View = true :=
  List.any_eq_true.2 ⟨.idAa64Afr0, ArmRegister.mem_all _, rfl⟩

/-- A core of the examples says that its architecture is told by its other registers. -/
theorem code_core (given : List (ArmRegister × UInt64)) (w : UInt64) (h : core given .midr = some w) :
    Bits.field w 19 16 = 0xF := by
  obtain rfl : 0xF0000 = w := Option.some.inj h
  decide

/-- The level of a core with the AArch64 registers is exactly what its flags justify: it lies on the walk, or is
unknown; a level of the walk is reached if and only if the flags justify every level of the walk up to it; and nothing
is reached without v8.0. -/
theorem le_ofArm_iff_justified (regs : ArmRegisters) (hview : regs.hasAarch64View = true)
    (hcode : ∀ w, regs .midr = some w → Bits.field w 19 16 = 0xF) :
    let flags := Finding.flags (Finding.all regs)
    let reached := ofArm regs (LevelTally.ofFindings (Finding.all regs))
    reached ∈ unknown :: Listing.walk flags ∧
      (∀ l ∈ Listing.walk flags, l ≤ reached ↔ ∀ m ∈ Listing.walk flags, m ≤ l → Listing.Justified flags m) ∧
      (¬ Listing.Justified flags armV8_0A → reached = unknown) := by
  intro flags reached
  have hreached : reached = ofAProfile (LevelTally.ofFindings (Finding.all regs)) := ofArm_eq_ofAProfile hview hcode _
  rw [hreached]
  refine ⟨?_, fun l hl => le_ofAProfile_iff hl, ofAProfile_eq_unknown⟩
  have h := ofAProfile_mem (LevelTally.ofFindings (Finding.all regs))
  rw [climb_eq_walk] at h
  exact h

/-- A core that has the atomic instructions and checksums, privileged access, limited ordering and hierarchical
permission bits that v8.1 requires, and nothing that v8.2 requires. -/
theorem le_ofArm_iff_justified_v8_1 :
    let regs := core [(.idAa64Isar0, 0x210000), (.idAa64Mmfr1, 0x111000)]
    let reached := ofArm regs (LevelTally.ofFindings (Finding.all regs))
    regs.hasAarch64View = true ∧ (∀ w, regs .midr = some w → Bits.field w 19 16 = 0xF) ∧
      armV8_1A ≤ reached ∧ ¬ armV8_2A ≤ reached := by
  intro regs reached
  obtain ⟨-, hle, -⟩ := le_ofArm_iff_justified regs (hasAarch64View_core _) (code_core _)
  refine ⟨hasAarch64View_core _, code_core _, ?_, ?_⟩
  · exact (hle armV8_1A (by decide +kernel)).2 (by decide +kernel)
  · intro h
    exact absurd ((hle armV8_2A (by decide +kernel)).1 h) (by decide +kernel)

end FeatureLevel
end CpuIdent
