import CpuIdent.Arm.Level
import CpuIdent.Proofs.Arm.Knowledge
import CpuIdent.Proofs.Feature.Members
import Mathlib.Data.List.Induction

/-!
# Counting while decoding

The features of a core are decoded one after the other: each finding sets its flag and is counted at the levels that list the
feature, and the later findings look at the flags set so far. What is left are the flags and the counts of all findings
(`Decoding.foldl_record`, `Decoding.decode_eq`). As no feature is listed twice, the findings counted as present are the listed
features among the flags (`Finding.countP_present`), and those are the features that the registers tell
(`Finding.mem_flags_iff_tells`). The other findings are counted whatever the registers say, but for those that only some
versions of memory partitioning and memory tagging give (`Finding.countP_listing`).
-/

namespace CpuIdent

/-! ## Decoding step by step -/

namespace LevelCounts

/-- Nothing is counted. -/
def zero : LevelCounts := ⟨fun _ => 0, fun _ => 0⟩

/-- One more at each of the levels that list a feature. -/
def count (c : LevelCounts) (e : Listing) : LevelCounts where
  optional := fun l => c.optional l + if e.optionalFrom == some l then 1 else 0
  mandatory := fun l => c.mandatory l + if e.mandatoryFrom == some l then 1 else 0

end LevelCounts

/-- A finding is counted among all, and among those present if it is. -/
def LevelTally.record (t : LevelTally) (x : Finding) : LevelTally where
  present := if x.present then t.present.count x.listing else t.present
  total := t.total.count x.listing

/-- The counts grow with the findings. -/
theorem LevelTally.ofFindings_append_singleton (found : List Finding) (x : Finding) :
    ofFindings (found ++ [x]) = (ofFindings found).record x := by
  unfold ofFindings record LevelCounts.count Finding.listing
  simp only [List.countP_append, List.countP_singleton]
  cases x.present <;> simp

/-- The flags set and the features counted so far. -/
structure Decoding where
  flags : FeatureSet ArmFeature
  tally : LevelTally

namespace Decoding

/-- No flag is set, and nothing is counted. -/
def start : Decoding := ⟨.empty, ⟨.zero, .zero⟩⟩

/-- A finding sets its flag if the feature is present, and is counted. -/
def record (d : Decoding) (x : Finding) : Decoding := ⟨d.flags.insertIf x.feature x.present, d.tally.record x⟩

/-- The rules come first and then the derived features, each told by the registers and by the flags set before it. -/
def decode (regs : ArmRegisters) : Decoding :=
  let rules := (Finding.ofRules regs).foldl record start
  let authenticated := rules.record (Finding.pauth rules.flags)
  let partitioned := (Finding.mpam regs).foldl record authenticated
  let tagged := (Finding.mteParts regs).foldl record partitioned
  tagged.record (Finding.mte4 tagged.flags)

/-- Recording findings one by one leaves their flags and their counts. -/
theorem foldl_record (found : List Finding) :
    found.foldl record start = ⟨Finding.flags found, LevelTally.ofFindings found⟩ := by
  induction found using List.reverseRecOn with
  | nil => rfl
  | append_singleton found x ih =>
    have hflags : Finding.flags (found ++ [x]) = (Finding.flags found).insertIf x.feature x.present := List.foldl_append
    rw [List.foldl_append, ih, LevelTally.ofFindings_append_singleton, hflags]
    rfl

/-- Looking at the flags set so far gives the same findings, in the same order. -/
theorem decode_eq (regs : ArmRegisters) :
    decode regs = ⟨Finding.flags (Finding.all regs), LevelTally.ofFindings (Finding.all regs)⟩ := by
  have hrules : ((Finding.ofRules regs).foldl record start).flags = Finding.flags (Finding.ofRules regs) := by
    rw [foldl_record]
  have hflags : ((Finding.parts regs).foldl record start).flags = Finding.flags (Finding.parts regs) := by
    rw [foldl_record]
  have hparts : (Finding.parts regs).foldl record start =
      (Finding.mteParts regs).foldl record ((Finding.mpam regs).foldl record
        (((Finding.ofRules regs).foldl record start).record (Finding.pauth (Finding.flags (Finding.ofRules regs))))) := by
    rw [Finding.parts, List.foldl_append, List.foldl_cons, List.foldl_append]
  rw [← foldl_record, Finding.all, List.foldl_append, List.foldl_cons, List.foldl_nil, ← hflags, hparts, ← hrules]
  rfl

end Decoding

/-! ## What the registers tell -/

/-- The registers tell a feature: by one of its probes on a known register, or by the rule of a feature that no single field
tells. Fields of unknown registers count as zero in these rules. -/
inductive ArmRegisters.Tells (regs : ArmRegisters) : ArmFeature → Prop where
  | probe {r : FeatureRule} {p : FieldProbe} {v : UInt64} (hr : r ∈ FeatureRule.all) (hp : p ∈ r.probes)
      (hv : regs p.register = some v) (hfield : Bits.field v p.high p.low = p.value) : Tells regs r.feature
  /-- Pointer authentication is there with any of its algorithms. -/
  | pauth {g : ArmFeature} (hg : g ∈ Finding.algorithms) (h : Tells regs g) : Tells regs .pauth
  | mpam (h : Finding.mpamMajor regs ≠ 0 ∨ Finding.mpamMinor regs ≠ 0) : Tells regs .mpam
  | mpamV0p1 (hmajor : Finding.mpamMajor regs = 0) (hminor : Finding.mpamMinor regs = 1) : Tells regs .mpamV0p1
  | mpamV1p1 (hmajor : Finding.mpamMajor regs = 1) (hminor : Finding.mpamMinor regs = 1) : Tells regs .mpamV1p1
  | mteAsync (hversion : 2 ≤ Finding.fieldOrZero regs .idAa64Pfr1 11 8)
      (h : Finding.fieldOrZero regs .idAa64Pfr1 43 40 = 0) : Tells regs .mteAsync
  | mteTags {f : ArmFeature} (hf : f = .mteCanonicalTags ∨ f = .mteNoAddressTags)
      (hversion : 2 ≤ Finding.fieldOrZero regs .idAa64Pfr1 11 8)
      (h : Finding.fieldOrZero regs .idAa64Pfr1 55 52 = 1) : Tells regs f
  /-- The fourth version of memory tagging is all of its parts together. -/
  | mte4 (h : ∀ g ∈ Finding.taggingParts, Tells regs g) : Tells regs .mte4

namespace Finding

section

variable {regs : ArmRegisters} {f : ArmFeature}

/-- A feature that the rules on single fields flag is told by a field. -/
theorem tells_of_mem_flags_ofRules (hf : f ∈ flags (ofRules regs)) : regs.Tells f := by
  obtain ⟨r, hr, rfl, hholds⟩ := mem_flags_ofRules.1 hf
  obtain ⟨p, hp, hprobe⟩ := FeatureRule.holds_iff.1 hholds
  obtain ⟨v, hv, hfield⟩ := FieldProbe.holds_iff.1 hprobe
  exact .probe hr hp hv hfield

/-- A feature that is flagged before the last composite one is told by the registers. -/
theorem tells_of_mem_flags_parts (hf : f ∈ flags (parts regs)) : regs.Tells f := by
  rcases mem_flags_parts.1 hf with hrules | ⟨rfl, g, hg, hflag⟩ | hmpam | hmte
  · exact tells_of_mem_flags_ofRules hrules
  · exact .pauth hg (tells_of_mem_flags_ofRules hflag)
  · rcases mem_flags_mpam.1 hmpam with ⟨rfl, hany⟩ | ⟨rfl, hmajor, hminor⟩ | ⟨rfl, hmajor, hminor⟩
    · exact .mpam hany
    · exact .mpamV0p1 hmajor hminor
    · exact .mpamV1p1 hmajor hminor
  · obtain ⟨hversion, ⟨rfl, hasync⟩ | ⟨hf, htags⟩⟩ := mem_flags_mteParts.1 hmte
    · exact .mteAsync hversion hasync
    · exact .mteTags hf hversion htags

/-- An algorithm of pointer authentication among the flags was told by its rule, before pointer authentication was derived. -/
theorem mem_flags_ofRules_of_algorithm {g : ArmFeature} (hg : g ∈ algorithms) (hflag : g ∈ flags (all regs)) :
    g ∈ flags (ofRules regs) := by
  have hrule : ∀ g ∈ algorithms, ∃ r ∈ FeatureRule.all, r.feature = g := by decide +kernel
  obtain ⟨r, hr, rfl⟩ := hrule g hg
  exact mem_flags_ofRules.2 ⟨r, hr, rfl, (mem_flags_iff_holds regs hr).1 hflag⟩

/-- The flags are the features that the registers tell. -/
theorem mem_flags_iff_tells : f ∈ flags (all regs) ↔ regs.Tells f := by
  constructor
  · intro hf
    rcases mem_flags_all.1 hf with hparts | ⟨rfl, hparts⟩
    · exact tells_of_mem_flags_parts hparts
    · exact .mte4 fun g hg => tells_of_mem_flags_parts (hparts g hg)
  · intro h
    have hparts : ∀ {f : ArmFeature}, f ∈ flags (parts regs) → f ∈ flags (all regs) := fun hf =>
      mem_flags_all.2 (Or.inl hf)
    have hmpam : ∀ {f : ArmFeature}, f ∈ flags (mpam regs) → f ∈ flags (all regs) := fun hf =>
      hparts (mem_flags_parts.2 (Or.inr (Or.inr (Or.inl hf))))
    have hmte : ∀ {f : ArmFeature}, f ∈ flags (mteParts regs) → f ∈ flags (all regs) := fun hf =>
      hparts (mem_flags_parts.2 (Or.inr (Or.inr (Or.inr hf))))
    induction h with
    | probe hr hp hv hfield =>
      exact (mem_flags_iff_holds regs hr).2 (FeatureRule.holds_iff.2 ⟨_, hp, FieldProbe.holds_iff.2 ⟨_, hv, hfield⟩⟩)
    | pauth hg _ ih =>
      exact hparts (mem_flags_parts.2 (Or.inr (Or.inl ⟨rfl, _, hg, mem_flags_ofRules_of_algorithm hg ih⟩)))
    | mpam hany => exact hmpam (mem_flags_mpam.2 (Or.inl ⟨rfl, hany⟩))
    | mpamV0p1 hmajor hminor => exact hmpam (mem_flags_mpam.2 (Or.inr (Or.inl ⟨rfl, hmajor, hminor⟩)))
    | mpamV1p1 hmajor hminor => exact hmpam (mem_flags_mpam.2 (Or.inr (Or.inr ⟨rfl, hmajor, hminor⟩)))
    | mteAsync hversion hasync => exact hmte (mem_flags_mteParts.2 ⟨hversion, Or.inl ⟨rfl, hasync⟩⟩)
    | mteTags hf hversion htags => exact hmte (mem_flags_mteParts.2 ⟨hversion, Or.inr ⟨hf, htags⟩⟩)
    | mte4 _ ih =>
      refine mem_flags_all.2 (Or.inr ⟨rfl, fun g hg => (mem_flags_all.1 (ih g hg)).resolve_right ?_⟩)
      rintro ⟨rfl, -⟩
      exact absurd hg (by decide)

end

/-! ## Counts of findings -/

section

variable (regs : ArmRegisters)

/-- As no feature is listed twice, the findings of a kind that say yes are as many as the flags listed in that way. -/
theorem countP_present (P : Listing → Bool) :
    (all regs).countP (fun x => P x.listing && x.present) =
      (flags (all regs)).toList.countP (· ∈ (Listing.all.filter P).map Listing.feature) := by
  have hfindings : (((all regs).filter fun x => P x.listing && x.present).map feature).Nodup :=
    (nodup_map_feature regs).sublist (List.filter_sublist.map feature)
  have hflags : ((flags (all regs)).toList.filter (· ∈ (Listing.all.filter P).map Listing.feature)).Nodup :=
    (FeatureSet.nodup_toList _).filter _
  have hmem : ∀ f, f ∈ ((all regs).filter fun x => P x.listing && x.present).map feature ↔
      f ∈ (flags (all regs)).toList.filter (· ∈ (Listing.all.filter P).map Listing.feature) := by
    intro f
    rw [List.mem_filter, decide_eq_true_eq, FeatureSet.mem_toList, ← FeatureSet.mem_def]
    simp only [List.mem_map, List.mem_filter, Bool.and_eq_true]
    constructor
    · rintro ⟨x, ⟨hx, hP, hpresent⟩, rfl⟩
      exact ⟨(mem_flags_iff_present hx).2 hpresent, x.listing, ⟨listing_mem hx, hP⟩, rfl⟩
    · rintro ⟨hf, e, ⟨he, hP⟩, rfl⟩
      obtain ⟨x, hx, hfeature, hpresent⟩ := mem_flags.1 hf
      obtain rfl := Listing.eq_of_feature_eq (listing_mem hx) he hfeature
      exact ⟨x, ⟨hx, hP, hpresent⟩, rfl⟩
  rw [List.countP_eq_length_filter, List.countP_eq_length_filter]
  exact (List.length_map feature).symm.trans ((List.perm_ext_iff_of_nodup hfindings hflags).2 hmem).length_eq

/-- The listings that are answered whatever the registers say. -/
def answered : List Listing :=
  FeatureRule.all.map FeatureRule.listing ++ [⟨.pauth, some .armV8_2A, some .armV8_3A⟩, ⟨.mte4, some .armV8_7A, none⟩]

/-- The findings that only some versions of memory partitioning and of memory tagging give. -/
def versions (regs : ArmRegisters) : List Finding := mpam regs ++ mteParts regs

/-- The findings of a kind are the answered listings of that kind and the versions of it. -/
theorem countP_listing (P : Listing → Bool) :
    (all regs).countP (fun x => P x.listing) = answered.countP P + (versions regs).countP fun x => P x.listing := by
  have hrules : (ofRules regs).countP (fun x => P x.listing) = (FeatureRule.all.map FeatureRule.listing).countP P := by
    rw [← listing_ofRules regs, List.countP_map]
    rfl
  have hpauth : (pauth (flags (ofRules regs))).listing = ⟨.pauth, some .armV8_2A, some .armV8_3A⟩ := rfl
  have hmte4 : (mte4 (flags (parts regs))).listing = ⟨.mte4, some .armV8_7A, none⟩ := rfl
  have hparts : parts regs = ofRules regs ++ pauth (flags (ofRules regs)) :: versions regs := rfl
  have hall : all regs = parts regs ++ [mte4 (flags (parts regs))] := rfl
  rw [hall, List.countP_append, List.countP_singleton, hmte4, hparts, List.countP_append, List.countP_cons, hpauth, hrules,
    answered, List.countP_append, List.countP_cons, List.countP_singleton]
  omega

/-- What only some versions give is required by no level, and optional from one of three. -/
theorem levels_of_mem_versions {x : Finding} (hx : x ∈ versions regs) :
    x.mandatoryFrom = none ∧ x.optionalFrom ∈ [some .armV8_2A, some .armV8_5A, some .armV8_7A] := by
  have hlevels : ∀ e ∈ (Listing.derived.drop 1).take 3 ++ (Listing.derived.drop 4).take 3,
      e.mandatoryFrom = none ∧ e.optionalFrom ∈ [some .armV8_2A, some .armV8_5A, some .armV8_7A] := by decide
  have hlisting := ((listing_mpam_sublist regs).append (listing_mteParts_sublist regs)).subset
  rw [← List.map_append] at hlisting
  exact hlevels x.listing (hlisting (List.mem_map_of_mem hx))

end

end Finding

/-! ## Counts and flags -/

namespace ArmRegisters

/-- The flags of a register file. -/
def flags (regs : ArmRegisters) : FeatureSet ArmFeature := Finding.flags (Finding.all regs)

/-- The counts of a register file. -/
def tally (regs : ArmRegisters) : LevelTally := LevelTally.ofFindings (Finding.all regs)

section

variable (regs : ArmRegisters) (l : FeatureLevel)

/-- The optional features of a level that are counted as present are the flags among them. -/
theorem present_optional_eq : regs.tally.present.optional l = regs.flags.toList.countP (· ∈ Listing.optionalAt l) :=
  Finding.countP_present regs fun e => e.optionalFrom == some l

/-- The mandatory features of a level that are counted as present are the flags among them. -/
theorem present_mandatory_eq : regs.tally.present.mandatory l = regs.flags.toList.countP (· ∈ Listing.mandatoryAt l) :=
  Finding.countP_present regs fun e => e.mandatoryFrom == some l

/-- No more optional features are present than there are. -/
theorem present_optional_le : regs.tally.present.optional l ≤ regs.tally.total.optional l :=
  List.countP_mono_left fun _ _ h => (Bool.and_eq_true_iff.1 h).1

/-- No more mandatory features are present than there are. -/
theorem present_mandatory_le : regs.tally.present.mandatory l ≤ regs.tally.total.mandatory l :=
  List.countP_mono_left fun _ _ h => (Bool.and_eq_true_iff.1 h).1

/-- The features that a level requires are counted whatever the registers say. -/
theorem total_mandatory_eq : regs.tally.total.mandatory l = Finding.answered.countP fun e => e.mandatoryFrom == some l := by
  have hnone : (Finding.versions regs).countP (fun x => x.listing.mandatoryFrom == some l) = 0 := by
    refine List.countP_eq_zero.2 fun x hx => ?_
    rw [show x.listing.mandatoryFrom = none from (Finding.levels_of_mem_versions regs hx).1]
    simp
  have htotal := Finding.countP_listing regs fun e => e.mandatoryFrom == some l
  rw [hnone, Nat.add_zero] at htotal
  exact htotal

/-- The features optional from a level are counted whatever the registers say, but for those that only some versions give. -/
theorem total_optional_eq : regs.tally.total.optional l =
    (Finding.answered.countP fun e => e.optionalFrom == some l) +
      (Finding.versions regs).countP fun x => x.optionalFrom == some l :=
  Finding.countP_listing regs fun e => e.optionalFrom == some l

/-- The levels from which versions of memory partitioning and of memory tagging are optional. -/
def versionLevels : List FeatureLevel := [.armV8_2A, .armV8_5A, .armV8_7A]

/-- Only three levels list extensions with versions of their own. -/
theorem countP_versions_eq_zero {l : FeatureLevel} (hl : l ∉ versionLevels) :
    ((Finding.versions regs).countP fun x => x.optionalFrom == some l) = 0 := by
  refine List.countP_eq_zero.2 fun x hx heq => hl ?_
  have hlevel := (Finding.levels_of_mem_versions regs hx).2
  rw [beq_iff_eq.1 heq] at hlevel
  simpa [versionLevels] using hlevel

/-- A core of which nothing is known. -/
def unread : ArmRegisters := fun _ => none

/-- A core with memory partitioning of minor version 1 and the second version of memory tagging. -/
def versioned : ArmRegisters := fun r => if r = .idAa64Pfr1 then some 0x10200 else none

/-- Cores without any versions and with some differ in how many features they count as optional from the levels of versions,
and from no other level. -/
theorem exists_total_optional_ne_iff :
    (∃ other : ArmRegisters, other.tally.total.optional l ≠ regs.tally.total.optional l) ↔ l ∈ versionLevels := by
  constructor
  · rintro ⟨other, hne⟩
    by_contra hl
    rw [total_optional_eq, total_optional_eq, countP_versions_eq_zero other hl, countP_versions_eq_zero regs hl] at hne
    exact hne rfl
  · intro hl
    have hcounts : ∀ l ∈ versionLevels, ((Finding.versions unread).countP fun x => x.optionalFrom == some l) ≠
        (Finding.versions versioned).countP fun x => x.optionalFrom == some l := by decide
    by_cases hregs : regs.tally.total.optional l = unread.tally.total.optional l
    · refine ⟨versioned, ?_⟩
      rw [hregs, total_optional_eq, total_optional_eq]
      exact fun heq => hcounts l hl (Nat.add_left_cancel heq).symm
    · exact ⟨unread, fun heq => hregs heq.symm⟩

end

/-- The flags and the counts of a register file agree, however they are computed. -/
structure CountsFlags (regs : ArmRegisters) : Prop where
  /-- Setting flags and counting along the way gives these flags and counts. -/
  decode : Decoding.decode regs = ⟨regs.flags, regs.tally⟩
  /-- The present optional features of a level are the flags that are optional from it. -/
  presentOptional : ∀ l, regs.tally.present.optional l = regs.flags.toList.countP (· ∈ Listing.optionalAt l)
  /-- The present mandatory features of a level are the flags that are mandatory from it. -/
  presentMandatory : ∀ l, regs.tally.present.mandatory l = regs.flags.toList.countP (· ∈ Listing.mandatoryAt l)
  optional_le : ∀ l, regs.tally.present.optional l ≤ regs.tally.total.optional l
  mandatory_le : ∀ l, regs.tally.present.mandatory l ≤ regs.tally.total.mandatory l
  /-- The mandatory features are counted the same for every register file. -/
  totalMandatory : ∀ (other : ArmRegisters) (l : FeatureLevel), other.tally.total.mandatory l = regs.tally.total.mandatory l
  /-- The optional features are not, but only at these levels. -/
  totalOptional : ∀ l, (∃ other : ArmRegisters, other.tally.total.optional l ≠ regs.tally.total.optional l) ↔
    l ∈ [FeatureLevel.armV8_2A, .armV8_5A, .armV8_7A]
  /-- A flag is set for a feature that a probe on a known register tells, or the rule of a derived feature, and for no other. -/
  told : ∀ f, f ∈ regs.flags ↔ regs.Tells f

/-- The counts of a register file are those of its flags, level by level. -/
theorem counts_flags (regs : ArmRegisters) : regs.CountsFlags where
  decode := Decoding.decode_eq regs
  presentOptional := present_optional_eq regs
  presentMandatory := present_mandatory_eq regs
  optional_le := present_optional_le regs
  mandatory_le := present_mandatory_le regs
  totalMandatory other l := (total_mandatory_eq other l).trans (total_mandatory_eq regs l).symm
  totalOptional := exists_total_optional_ne_iff regs
  told _ := Finding.mem_flags_iff_tells

end ArmRegisters
end CpuIdent
