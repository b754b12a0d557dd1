import CpuIdent.Proofs.Arm.Listing

/-!
# What more registers tell

Where more registers of a core are known, every rule on a single field that held still holds (`FeatureRule.holds_mono`),
and a field that was not zero is the same (`Finding.fieldOrZero_eq_of_ne_zero`). So the features told from fewer registers
are told from more, but for one: version 0.1 of memory partitioning is the minor version 1 under the major version 0, and
a major version in an unknown register counts as 0. It is lost exactly where that register becomes known with another
major version (`Finding.not_mem_flags_iff`).
-/

namespace CpuIdent

/-- Every register known in one file is known in the other, with the same value. -/
def ArmRegisters.KnownIn (regs more : ArmRegisters) : Prop := ∀ r v, regs r = some v → more r = some v

section

variable {regs more : ArmRegisters}

/-! ## Rules on single fields -/

/-- A probe holds if its register is known and the field has the value. -/
theorem FieldProbe.holds_iff {p : FieldProbe} :
    p.holds regs = true ↔ ∃ v, regs p.register = some v ∧ Bits.field v p.high p.low = p.value := by
  unfold FieldProbe.holds
  cases regs p.register <;> simp

/-- A probe that holds still holds where more is known. -/
theorem FieldProbe.holds_mono (h : regs.KnownIn more) {p : FieldProbe} (hp : p.holds regs = true) : p.holds more = true := by
  obtain ⟨v, hv, hfield⟩ := holds_iff.1 hp
  exact holds_iff.2 ⟨v, h _ _ hv, hfield⟩

/-- A rule holds if one of its probes does. -/
theorem FeatureRule.holds_iff {r : FeatureRule} : r.holds regs = true ↔ ∃ p ∈ r.probes, p.holds regs = true :=
  List.any_eq_true

/-- A rule that holds still holds where more is known. -/
theorem FeatureRule.holds_mono (h : regs.KnownIn more) {r : FeatureRule} (hr : r.holds regs = true) : r.holds more = true := by
  obtain ⟨p, hp, hholds⟩ := holds_iff.1 hr
  exact holds_iff.2 ⟨p, hp, FieldProbe.holds_mono h hholds⟩

namespace Finding

/-! ## Fields that count as zero while they are unknown -/

/-- A field of a known register is the field of its value. -/
theorem fieldOrZero_of_known {r : ArmRegister} {v : UInt64} (hv : regs r = some v) (high low : Nat) :
    fieldOrZero regs r high low = Bits.field v high low := by
  rw [fieldOrZero, hv, Option.getD_some]

/-- Every field of zero is zero. -/
theorem field_zero (high low : Nat) : Bits.field 0 high low = 0 := by
  simp [Bits.field]

/-- A field that is not zero belongs to a known register. -/
theorem exists_known_of_ne_zero {r : ArmRegister} {high low : Nat} (hne : fieldOrZero regs r high low ≠ 0) :
    ∃ v, regs r = some v := by
  cases hv : regs r with
  | some v => exact ⟨v, rfl⟩
  | none =>
    rw [fieldOrZero, hv, Option.getD_none] at hne
    exact absurd (field_zero high low) hne

/-- A field of a known register is the same where more is known. -/
theorem fieldOrZero_eq_of_known (h : regs.KnownIn more) {r : ArmRegister} {v : UInt64} (hv : regs r = some v) (high low : Nat) :
    fieldOrZero more r high low = fieldOrZero regs r high low := by
  rw [fieldOrZero_of_known hv, fieldOrZero_of_known (h r v hv)]

/-- A field that is not zero stays as it is where more is known. -/
theorem fieldOrZero_eq_of_ne_zero (h : regs.KnownIn more) {r : ArmRegister} {high low : Nat}
    (hne : fieldOrZero regs r high low ≠ 0) : fieldOrZero more r high low = fieldOrZero regs r high low := by
  obtain ⟨v, hv⟩ := exists_known_of_ne_zero hne
  exact fieldOrZero_eq_of_known h hv high low

/-- The major version of memory partitioning, 0 while its register is unknown. -/
def mpamMajor (regs : ArmRegisters) : UInt64 := fieldOrZero regs .idAa64Pfr0 43 40

/-- The minor version of memory partitioning, 0 while its register is unknown. -/
def mpamMinor (regs : ArmRegisters) : UInt64 := fieldOrZero regs .idAa64Pfr1 19 16

/-! ## The flags, part by part -/

section

variable {f : ArmFeature} {xs ys : List Finding}

/-- The flags of two runs of findings are those of either. -/
theorem mem_flags_append : f ∈ flags (xs ++ ys) ↔ f ∈ flags xs ∨ f ∈ flags ys := by
  simp only [mem_flags, List.mem_append, or_and_right, exists_or]

/-- The flags of a run of findings, by its first finding. -/
theorem mem_flags_cons {x : Finding} : f ∈ flags (x :: xs) ↔ x.feature = f ∧ x.present = true ∨ f ∈ flags xs := by
  simp only [mem_flags, List.mem_cons, exists_eq_or_imp]

/-- No findings, no flags. -/
theorem not_mem_flags_nil : ¬ f ∈ flags [] := by
  simp [mem_flags]

/-- The rules on single fields flag the features of those that hold. -/
theorem mem_flags_ofRules : f ∈ flags (ofRules regs) ↔ ∃ r ∈ FeatureRule.all, r.feature = f ∧ r.holds regs = true := by
  simp [mem_flags, ofRules]

/-- A feature without a rule is not told by the rules. -/
theorem not_mem_flags_ofRules (h : ∀ r ∈ FeatureRule.all, r.feature ≠ f) : ¬ f ∈ flags (ofRules regs) := by
  intro hmem
  obtain ⟨r, hr, hfeature, -⟩ := mem_flags_ofRules.1 hmem
  exact h r hr hfeature

/-- Memory partitioning shows with any version, and two versions have a flag of their own. -/
theorem mem_flags_mpam : f ∈ flags (mpam regs) ↔
    f = .mpam ∧ (mpamMajor regs ≠ 0 ∨ mpamMinor regs ≠ 0) ∨ f = .mpamV0p1 ∧ mpamMajor regs = 0 ∧ mpamMinor regs = 1 ∨
      f = .mpamV1p1 ∧ mpamMajor regs = 1 ∧ mpamMinor regs = 1 := by
  unfold mpam mpamMajor mpamMinor
  generalize fieldOrZero regs .idAa64Pfr0 43 40 = major
  generalize fieldOrZero regs .idAa64Pfr1 19 16 = minor
  by_cases hzero : major = 0 ∧ minor = 0
  · obtain ⟨rfl, rfl⟩ := hzero
    simp [not_mem_flags_nil]
  · have hany : major ≠ 0 ∨ minor ≠ 0 := not_and_or.1 hzero
    simp only [hzero, ↓reduceIte, mem_flags_cons, not_mem_flags_nil, or_false, hany, and_true, decide_eq_true_eq]
    simp only [eq_comm (b := f)]

/-- Parts of memory tagging are told only from version 2 on. -/
theorem mem_flags_mteParts : f ∈ flags (mteParts regs) ↔ 2 ≤ fieldOrZero regs .idAa64Pfr1 11 8 ∧
    (f = .mteAsync ∧ fieldOrZero regs .idAa64Pfr1 43 40 = 0 ∨
      (f = .mteCanonicalTags ∨ f = .mteNoAddressTags) ∧ fieldOrZero regs .idAa64Pfr1 55 52 = 1) := by
  unfold mteParts
  split
  · rename_i hversion
    simp only [mem_flags_cons, not_mem_flags_nil, or_false, decide_eq_true_eq, or_and_right, eq_comm (b := f)]
    exact (and_iff_right hversion).symm
  · rename_i hversion
    simp only [not_mem_flags_nil, false_iff]
    exact fun hand => hversion hand.1

/-- The algorithms of pointer authentication. -/
def algorithms : List ArmFeature := [.pacImp, .pacQarma3, .pacQarma5]

/-- The features that make up the fourth version of memory tagging. -/
def taggingParts : List ArmFeature := [.mteCanonicalTags, .mteNoAddressTags, .mteTaggedFar, .mteStoreOnly]

/-- The flags before the last composite one: by rules, by an algorithm of pointer authentication, and by the two extensions with
versions of their own. -/
theorem mem_flags_parts : f ∈ flags (parts regs) ↔ f ∈ flags (ofRules regs) ∨
    f = .pauth ∧ (∃ g ∈ algorithms, g ∈ flags (ofRules regs)) ∨ f ∈ flags (mpam regs) ∨ f ∈ flags (mteParts regs) := by
  simp only [parts, mem_flags_append, mem_flags_cons, pauth, algorithms, eq_comm (b := f)]
  simp [FeatureSet.mem_def, or_assoc]

/-- Version 4 of memory tagging is flagged with all its parts. -/
theorem mem_flags_all : f ∈ flags (all regs) ↔
    f ∈ flags (parts regs) ∨ f = .mte4 ∧ ∀ g ∈ taggingParts, g ∈ flags (parts regs) := by
  simp only [all, mem_flags_append, mem_flags_cons, not_mem_flags_nil, or_false, mte4, eq_comm (b := f)]
  simp [FeatureSet.mem_def, FeatureSet.containsAll, taggingParts]

end

/-! ## What stays when more is known -/

section

variable {f : ArmFeature}

/-- What the rules on single fields flag, they still flag where more is known. -/
theorem flags_ofRules_mono (h : regs.KnownIn more) (hf : f ∈ flags (ofRules regs)) : f ∈ flags (ofRules more) := by
  obtain ⟨r, hr, hfeature, hholds⟩ := mem_flags_ofRules.1 hf
  exact mem_flags_ofRules.2 ⟨r, hr, hfeature, FeatureRule.holds_mono h hholds⟩

/-- The version of memory tagging is not zero where it tells anything, and the other fields stand in the same register. -/
theorem flags_mteParts_mono (h : regs.KnownIn more) (hf : f ∈ flags (mteParts regs)) : f ∈ flags (mteParts more) := by
  rw [mem_flags_mteParts] at hf ⊢
  have hne : fieldOrZero regs .idAa64Pfr1 11 8 ≠ 0 := by
    intro hzero
    rw [hzero] at hf
    exact absurd hf.1 (by decide)
  obtain ⟨v, hv⟩ := exists_known_of_ne_zero hne
  simpa only [fieldOrZero_eq_of_known h hv] using hf

/-- Memory partitioning keeps its flags, unless a major version that counted as 0 is another one. -/
theorem flags_mpam_mono (h : regs.KnownIn more) (hf : f ∈ flags (mpam regs)) :
    f ∈ flags (mpam more) ∨ f = .mpamV0p1 ∧ mpamMajor regs = 0 ∧ mpamMajor more ≠ 0 := by
  have hmajor : mpamMajor regs ≠ 0 → mpamMajor more = mpamMajor regs := fieldOrZero_eq_of_ne_zero h
  have hminor : mpamMinor regs ≠ 0 → mpamMinor more = mpamMinor regs := fieldOrZero_eq_of_ne_zero h
  rw [mem_flags_mpam] at hf ⊢
  rcases hf with ⟨rfl, hany⟩ | ⟨rfl, h0, h1⟩ | ⟨rfl, h1, h1'⟩
  · refine Or.inl (Or.inl ⟨rfl, hany.imp (fun hne => ?_) fun hne => ?_⟩)
    · rwa [hmajor hne]
    · rwa [hminor hne]
  · by_cases hmore : mpamMajor more = 0
    · exact Or.inl (Or.inr (Or.inl ⟨rfl, hmore, by rw [hminor (by rw [h1]; decide), h1]⟩))
    · exact Or.inr ⟨rfl, h0, hmore⟩
  · refine Or.inl (Or.inr (Or.inr ⟨rfl, ?_, ?_⟩))
    · rw [hmajor (by rw [h1]; decide), h1]
    · rw [hminor (by rw [h1']; decide), h1']

/-- Where more is known, only version 0.1 of memory partitioning may be flagged no more. -/
theorem flags_parts_mono (h : regs.KnownIn more) (hf : f ∈ flags (parts regs)) :
    f ∈ flags (parts more) ∨ f = .mpamV0p1 ∧ mpamMajor regs = 0 ∧ mpamMajor more ≠ 0 := by
  rw [mem_flags_parts] at hf ⊢
  rcases hf with hf | ⟨rfl, g, hg, hflag⟩ | hf | hf
  · exact Or.inl (Or.inl (flags_ofRules_mono h hf))
  · exact Or.inl (Or.inr (Or.inl ⟨rfl, g, hg, flags_ofRules_mono h hflag⟩))
  · exact (flags_mpam_mono h hf).imp (fun hf => Or.inr (Or.inr (Or.inl hf))) id
  · exact Or.inl (Or.inr (Or.inr (Or.inr (flags_mteParts_mono h hf))))

/-- Only version 0.1 of memory partitioning may be lost. -/
theorem flags_all_mono (h : regs.KnownIn more) (hf : f ∈ flags (all regs)) :
    f ∈ flags (all more) ∨ f = .mpamV0p1 ∧ mpamMajor regs = 0 ∧ mpamMajor more ≠ 0 := by
  rw [mem_flags_all] at hf ⊢
  rcases hf with hf | ⟨rfl, hparts⟩
  · exact (flags_parts_mono h hf).imp Or.inl id
  · refine Or.inl (Or.inr ⟨rfl, fun g hg => (flags_parts_mono h (hparts g hg)).resolve_right ?_⟩)
    rintro ⟨rfl, -⟩
    exact absurd hg (by decide)

/-- Version 0.1 of memory partitioning is told by its major version 0 and its minor version 1 alone. -/
theorem mpamV0p1_mem_flags_iff : .mpamV0p1 ∈ flags (all regs) ↔ mpamMajor regs = 0 ∧ mpamMinor regs = 1 := by
  have hrules : ¬ .mpamV0p1 ∈ flags (ofRules regs) := not_mem_flags_ofRules (by decide +kernel)
  simp [mem_flags_all, mem_flags_parts, mem_flags_mpam, mem_flags_mteParts, hrules]

/-- A feature told from some registers is told from more, but for version 0.1 of memory partitioning: that is lost where
the register of the major version, unknown before, is known with another major version than 0. -/
theorem not_mem_flags_iff (h : regs.KnownIn more) (hf : f ∈ flags (all regs)) :
    f ∉ flags (all more) ↔
      f = .mpamV0p1 ∧ regs .idAa64Pfr0 = none ∧ ∃ v, more .idAa64Pfr0 = some v ∧ Bits.field v 43 40 ≠ 0 := by
  constructor
  · intro hnot
    obtain ⟨rfl, hzero, hne⟩ := (flags_all_mono h hf).resolve_left hnot
    refine ⟨rfl, ?_, ?_⟩
    · cases hv : regs .idAa64Pfr0 with
      | none => rfl
      | some v => exact absurd ((fieldOrZero_eq_of_known h hv 43 40).trans hzero) hne
    · obtain ⟨v, hv⟩ := exists_known_of_ne_zero hne
      exact ⟨v, hv, fieldOrZero_of_known hv 43 40 ▸ hne⟩
  · rintro ⟨rfl, -, v, hv, hne⟩ hmem
    exact hne ((fieldOrZero_of_known hv 43 40).symm.trans (mpamV0p1_mem_flags_iff.1 hmem).1)

end

/-! ## A major version that was not known -/

/-- A core of which the register of the minor version is known, with the minor version 1. -/
def minorOnly : ArmRegisters := fun r => if r = .idAa64Pfr1 then some 0x10000 else none

/-- The same core, with the major version 1. -/
def bothVersions : ArmRegisters := fun r => if r = .idAa64Pfr0 then some 0x10000000000 else minorOnly r

/-- The second example knows all that the first one does. -/
theorem minorOnly_knownIn : minorOnly.KnownIn bothVersions := by
  intro r v hv
  unfold bothVersions
  split
  · rename_i hr
    subst hr
    cases hv
  · exact hv

/-- Without a major version, the minor version alone is taken for version 0.1. -/
theorem mpamV0p1_mem_minorOnly : .mpamV0p1 ∈ flags (all minorOnly) :=
  mpamV0p1_mem_flags_iff.2 ⟨by decide, by decide⟩

/-- With the major version, version 0.1 turns out to be version 1.1. -/
theorem not_mem_flags_iff_bothVersions : minorOnly.KnownIn bothVersions ∧ .mpamV0p1 ∈ flags (all minorOnly) ∧
    .mpamV0p1 ∉ flags (all bothVersions) :=
  ⟨minorOnly_knownIn, mpamV0p1_mem_minorOnly,
    (not_mem_flags_iff minorOnly_knownIn mpamV0p1_mem_minorOnly).2 ⟨rfl, rfl, _, rfl, by decide⟩⟩

/-- Not every feature told from some registers is told from more. -/
theorem not_forall_mem_flags_more :
    ¬ ∀ (regs more : ArmRegisters) (f : ArmFeature), regs.KnownIn more → f ∈ flags (all regs) → f ∈ flags (all more) := by
  intro h
  have hmore := h minorOnly bothVersions .mpamV0p1 minorOnly_knownIn mpamV0p1_mem_minorOnly
  exact absurd (mpamV0p1_mem_flags_iff.1 hmore).1 (by decide)

end Finding
end
end CpuIdent
