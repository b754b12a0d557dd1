import CpuIdent.Arm.Finding
import Mathlib.Data.List.Chain
import Mathlib.Data.List.Nodup

/-!
# Listed features

The features that the architecture levels list, whatever the registers say: those told by rules on single fields, and
those derived from several fields or from other features. No feature is listed twice (`nodup_features`), a finding
answers a listing (`listing_sublist`), and a listing with a mandatory level is always answered
(`exists_finding_of_mandatory`). Hence a listed feature is in the flags exactly when its finding says that it is
present (`mem_flags_iff_present`, `exists_present_iff`).
-/

namespace CpuIdent

/-- A feature and the levels that list it. -/
structure Listing where
  feature : ArmFeature
  /-- The level from which the feature is optional. -/
  optionalFrom : Option FeatureLevel
  /-- The level from which the feature is mandatory. -/
  mandatoryFrom : Option FeatureLevel
  deriving DecidableEq, Repr

/-- The listing of a rule. -/
def FeatureRule.listing (r : FeatureRule) : Listing := ⟨r.feature, r.optionalFrom, r.mandatoryFrom⟩

/-- The listing that a finding answers. -/
def Finding.listing (f : Finding) : Listing := ⟨f.feature, f.optionalFrom, f.mandatoryFrom⟩

namespace Listing

/-- The features that no single field tells. -/
def derived : List Listing := [
  ⟨.pauth, some .armV8_2A, some .armV8_3A⟩,
  ⟨.mpam, some .armV8_2A, none⟩,
  ⟨.mpamV0p1, some .armV8_5A, none⟩,
  ⟨.mpamV1p1, some .armV8_5A, none⟩,
  ⟨.mteAsync, some .armV8_5A, none⟩,
  ⟨.mteCanonicalTags, some .armV8_7A, none⟩,
  ⟨.mteNoAddressTags, some .armV8_7A, none⟩,
  ⟨.mte4, some .armV8_7A, none⟩]

/-- Every listing. -/
def all : List Listing := FeatureRule.all.map FeatureRule.listing ++ derived

/-- The features optional from a level. -/
def optionalAt (l : FeatureLevel) : List ArmFeature :=
  (all.filter fun e => e.optionalFrom == some l).map Listing.feature

/-- The features mandatory from a level. -/
def mandatoryAt (l : FeatureLevel) : List ArmFeature :=
  (all.filter fun e => e.mandatoryFrom == some l).map Listing.feature

/-- A level lists as optional what some entry says is optional from it on. -/
theorem mem_optionalAt {l : FeatureLevel} {f : ArmFeature} :
    f ∈ optionalAt l ↔ ∃ e ∈ all, e.optionalFrom = some l ∧ e.feature = f := by
  simp [optionalAt, and_assoc]

/-- A level lists as mandatory what some entry says is mandatory from it on. -/
theorem mem_mandatoryAt {l : FeatureLevel} {f : ArmFeature} :
    f ∈ mandatoryAt l ↔ ∃ e ∈ all, e.mandatoryFrom = some l ∧ e.feature = f := by
  simp [mandatoryAt, and_assoc]

/-- The rules stand in the order of the enumeration of features, so that no two of them tell the same feature. -/
theorem nodup_ruleFeatures : (FeatureRule.all.map FeatureRule.feature).Nodup := by
  have h : (FeatureRule.all.map fun r => Feature.index r.feature).IsChain (· < ·) := by decide +kernel
  have hnd : (FeatureRule.all.map fun r => Feature.index r.feature).Nodup :=
    (List.isChain_iff_pairwise.1 h).imp Nat.ne_of_lt
  refine List.Nodup.of_map Feature.index ?_
  rw [List.map_map]
  exact hnd

/-- No feature is listed twice: the derived ones are not told by rules. -/
theorem nodup_features : (all.map Listing.feature).Nodup := by
  have hrules : (FeatureRule.all.map FeatureRule.listing).map Listing.feature = FeatureRule.all.map FeatureRule.feature := by
    rw [List.map_map]
    rfl
  rw [all, List.map_append, hrules]
  refine List.nodup_append.2 ⟨nodup_ruleFeatures, by decide, ?_⟩
  have hnew : ∀ f ∈ derived.map Listing.feature, f ∉ FeatureRule.all.map FeatureRule.feature := by decide +kernel
  rintro f hf g hg rfl
  exact hnew f hg hf

/-- A feature has only one listing. -/
theorem eq_of_feature_eq {e e' : Listing} (he : e ∈ all) (he' : e' ∈ all) (h : e.feature = e'.feature) : e = e' :=
  List.inj_on_of_nodup_map nodup_features he he' h

end Listing

namespace Finding

/-! ## Flags -/

/-- The flags are the features found present. -/
theorem mem_flags {found : List Finding} {f : ArmFeature} :
    f ∈ flags found ↔ ∃ x ∈ found, x.feature = f ∧ x.present = true := by
  rw [FeatureSet.mem_def, flags, FeatureSet.contains_foldl_insertIf]
  simp

/-! ## Findings answer listings -/

/-- The findings by rules on single fields are listed as their rules are, whatever the registers. -/
theorem listing_ofRules (regs : ArmRegisters) :
    (ofRules regs).map listing = FeatureRule.all.map FeatureRule.listing := by
  rw [ofRules, List.map_map]
  rfl

/-- The versions of memory partitioning, if there are any findings on them, stand together among the derived listings. -/
theorem listing_mpam_sublist (regs : ArmRegisters) :
    ((mpam regs).map listing).Sublist ((Listing.derived.drop 1).take 3) := by
  simp only [mpam]
  split
  · exact List.nil_sublist _
  · exact List.Sublist.refl _

/-- So do the parts of memory tagging. -/
theorem listing_mteParts_sublist (regs : ArmRegisters) :
    ((mteParts regs).map listing).Sublist ((Listing.derived.drop 4).take 3) := by
  simp only [mteParts]
  split
  · exact List.Sublist.refl _
  · exact List.nil_sublist _

/-- The findings answer listings, each at most one, in the order of the listings. -/
theorem listing_sublist (regs : ArmRegisters) : ((all regs).map listing).Sublist Listing.all := by
  have hmpam := listing_mpam_sublist regs
  have hmte := listing_mteParts_sublist regs
  have hderived : Listing.derived =
      [⟨.pauth, some .armV8_2A, some .armV8_3A⟩] ++ ((Listing.derived.drop 1).take 3 ++ (Listing.derived.drop 4).take 3) ++
        [⟨.mte4, some .armV8_7A, none⟩] := rfl
  unfold all parts
  simp only [List.map_append, List.map_cons, List.map_nil, listing_ofRules, List.append_assoc, List.cons_append]
  rw [Listing.all, hderived]
  refine (List.Sublist.refl _).append ?_
  simp only [List.cons_append, List.nil_append, List.append_assoc]
  exact List.Sublist.cons_cons _ (hmpam.append (hmte.append (List.Sublist.refl _)))

/-- Every finding is listed. -/
theorem listing_mem {regs : ArmRegisters} {x : Finding} (hx : x ∈ all regs) : x.listing ∈ Listing.all :=
  (listing_sublist regs).subset (List.mem_map_of_mem hx)

/-- No feature is asked for twice. -/
theorem nodup_map_feature (regs : ArmRegisters) : ((all regs).map feature).Nodup := by
  have hlistings : (all regs).map feature = ((all regs).map listing).map Listing.feature := by
    rw [List.map_map]
    rfl
  rw [hlistings]
  exact Listing.nodup_features.sublist ((listing_sublist regs).map _)

/-- Two findings about one feature are the same. -/
theorem eq_of_feature_eq {regs : ArmRegisters} {x y : Finding} (hx : x ∈ all regs) (hy : y ∈ all regs)
    (h : x.feature = y.feature) : x = y :=
  List.inj_on_of_nodup_map (nodup_map_feature regs) hx hy h

/-- A feature that a level requires is always asked for: it is told by a rule, or it is pointer authentication. -/
theorem exists_finding_of_mandatory (regs : ArmRegisters) {e : Listing} (he : e ∈ Listing.all) (hm : e.mandatoryFrom ≠ none) :
    ∃ x ∈ all regs, x.listing = e := by
  rw [Listing.all, List.mem_append] at he
  rcases he with he | he
  · rw [← listing_ofRules regs] at he
    obtain ⟨x, hx, rfl⟩ := List.mem_map.1 he
    exact ⟨x, by simp [all, parts, hx], rfl⟩
  · have hp : ∀ d ∈ Listing.derived, d.mandatoryFrom ≠ none → d = ⟨.pauth, some .armV8_2A, some .armV8_3A⟩ := by decide
    exact ⟨pauth (flags (ofRules regs)), by simp [all, parts], (hp e he hm).symm⟩

/-! ## Flags and findings -/

/-- A feature asked for is among the flags exactly when it was found present. -/
theorem mem_flags_iff_present {regs : ArmRegisters} {x : Finding} (hx : x ∈ all regs) :
    x.feature ∈ flags (all regs) ↔ x.present = true := by
  rw [mem_flags]
  constructor
  · rintro ⟨y, hy, hf, hp⟩
    exact eq_of_feature_eq hy hx hf ▸ hp
  · intro hp
    exact ⟨x, hx, rfl, hp⟩

/-- Some finding of a kind says yes exactly when the flags hold some feature whose listing is of that kind. -/
theorem exists_present_iff (regs : ArmRegisters) (P : Listing → Prop) :
    (∃ x ∈ all regs, P x.listing ∧ x.present = true) ↔ ∃ e ∈ Listing.all, P e ∧ e.feature ∈ flags (all regs) := by
  constructor
  · rintro ⟨x, hx, hP, hp⟩
    exact ⟨x.listing, listing_mem hx, hP, (mem_flags_iff_present hx).2 hp⟩
  · rintro ⟨e, he, hP, hf⟩
    obtain ⟨x, hx, hxf, hp⟩ := mem_flags.1 hf
    obtain rfl := Listing.eq_of_feature_eq (listing_mem hx) he hxf
    exact ⟨x, hx, hP, hp⟩

/-- A feature told by a rule is among the flags exactly when the rule holds. -/
theorem mem_flags_iff_holds (regs : ArmRegisters) {r : FeatureRule} (hr : r ∈ FeatureRule.all) :
    r.feature ∈ flags (all regs) ↔ r.holds regs = true := by
  have hx : (⟨r.feature, r.optionalFrom, r.mandatoryFrom, r.holds regs⟩ : Finding) ∈ all regs := by
    simp only [all, parts, List.append_assoc, List.mem_append]
    exact Or.inl (List.mem_map_of_mem hr)
  exact mem_flags_iff_present hx

end Finding
end CpuIdent
