import CpuIdent.Identify
import CpuIdent.Proofs.Signature.Supported

/-!
# What identification looks at

Each stage of the identification reads a signature through lookups of supported leaves only, or asks first whether the
leaf is supported. So signatures that agree where the first one supports leaves go through the stages alike, and are
identified alike; a signature without its first leaf is identified by its ARM registers (`identify_reads_supported`).
-/

namespace CpuIdent
namespace Signature
namespace AgreesWhereSupported

variable {s t : Signature} (h : AgreesWhereSupported s t)
include h

/-! ## Stages -/

/-- A table of flags looks at one leaf, if it is supported. -/
theorem addTo_eq (table : LeafTable) (flags : FeatureSet X86Feature) : table.addTo s flags = table.addTo t flags := by
  rw [LeafTable.addTo, h.leaf_eq, LeafTable.addTo]

theorem addAll_eq (tables : List LeafTable) (flags : FeatureSet X86Feature) :
    LeafTable.addAll tables s flags = LeafTable.addAll tables t flags := by
  simp only [LeafTable.addAll, h.addTo_eq]

/-- What is read of every vendor is the same. -/
theorem basic_eq : Identify.basic s = Identify.basic t := by
  simp only [Identify.basic, h.vendorString_eq, h.brandString_eq, h.basicLeaf_eq 1 (by decide), h.addAll_eq]

/-- The sub-leaves of leaf 4 are looked at only if it is supported. -/
theorem slots_cache_eq (hmax : s.maxBasic ≥ 4) : s.slots .cache = t.slots .cache :=
  h.slots_eq_of_leaf _ 0x04 (fun slot hg => by simp only [Slot.leaf, hg]) ((supports_basic (by decide)).2 hmax)

/-- The caches of Intel are the same. -/
theorem intelCaches_eq (id : Identity) : Identify.intelCaches s id = Identify.intelCaches t id := by
  unfold Identify.intelCaches
  rw [← h.maxBasic_eq, ← h.basicLeaf_eq 2 (by decide)]
  split
  · rename_i hmax
    rw [h.slots_cache_eq hmax]
  · rfl

section

variable {m : Type → Type} [Monad m] (quotient : Int → Int → m Int)

/-- The extended topology leaf is looked at only if it is supported. -/
theorem extendedBy_eq : Topology.extendedBy quotient s = Topology.extendedBy quotient t := by
  unfold Topology.extendedBy
  rw [← h.maxBasic_eq]
  split
  · rfl
  · rename_i hmax
    have hs : s.Supports 0x0B := (supports_basic (by decide)).2 (UInt32.not_lt.1 hmax)
    rw [h.slots_eq_of_leaf _ _ (fun slot hg => by simp only [Slot.leaf, hg]) hs]

theorem leaf1Logical_eq : Topology.leaf1Logical s = Topology.leaf1Logical t := by
  rw [Topology.leaf1Logical, h.basicLeaf_eq _ (by decide), Topology.leaf1Logical]

/-- The counts of Intel are the same, whatever the division does. -/
theorem intelCountsBy_eq : Topology.intelCountsBy quotient s = Topology.intelCountsBy quotient t := by
  unfold Topology.intelCountsBy
  rw [h.extendedBy_eq, h.leaf1Logical_eq, ← h.maxBasic_eq, ← h.basicLeaf_eq 4 (by decide)]
  by_cases hmax : s.maxBasic ≥ 4
  · have hs : s.Supports 0x04 := (supports_basic (by decide)).2 hmax
    rw [h.getAt_eq_of_leaf _ _ _ (fun slot hg => by simp only [Slot.leaf, hg]) hs]
  · -- The sub-leaf is looked up all the same, but what it says is not used.
    simp only [hmax, ↓reduceIte]
    refine bind_congr fun counts => ?_
    split
    · rfl
    · split <;> split <;> rfl

/-- Leaf 0x80000008 states the same cores. -/
theorem statedCores_eq : Topology.statedCores s = Topology.statedCores t := by
  rw [Topology.statedCores, h.extendedLeaf_eq, Topology.statedCores]

/-- The counts of AMD are the same, whatever the division does. -/
theorem amdCountsBy_eq (extFamily : Int) (flags : FeatureSet X86Feature) :
    Topology.amdCountsBy quotient s extFamily flags = Topology.amdCountsBy quotient t extFamily flags := by
  simp only [Topology.amdCountsBy, Topology.amdCoresBy, h.statedCores_eq, h.extendedLeaf_eq, h.leaf1Logical_eq]

end

theorem intelCounts_eq : Topology.intelCounts s = Topology.intelCounts t := congrArg Id.run (h.intelCountsBy_eq _)

theorem amdCounts_eq (extFamily : Int) (flags : FeatureSet X86Feature) :
    Topology.amdCounts s extFamily flags = Topology.amdCounts t extFamily flags :=
  congrArg Id.run (h.amdCountsBy_eq _ extFamily flags)

/-- The role that Intel states is the same. -/
theorem purpose_ofIntel_eq (flags : FeatureSet X86Feature) : Purpose.ofIntel s flags = Purpose.ofIntel t flags := by
  rw [Purpose.ofIntel, h.basicLeaf_eq _ (by decide), Purpose.ofIntel]

theorem purpose_ofAmd_eq : Purpose.ofAmd s = Purpose.ofAmd t := by
  unfold Purpose.ofAmd
  rw [← h.maxExtended_eq]
  split
  · rfl
  · rename_i hmax
    have hs : s.Supports 0x80000026 := (supports_extended (by decide)).2 (UInt32.not_lt.1 hmax)
    have hslots := h.slots_eq_of_leaf .amdTopology _ (fun slot hg => by simp only [Slot.leaf, hg]) hs
    rw [Purpose.coreLevel?, hslots, Purpose.coreLevel?]

/-- What is said of enclaves is the same. -/
theorem decode?_eq (flags : FeatureSet X86Feature) : EnclaveInfo.decode? s flags = EnclaveInfo.decode? t flags := by
  unfold EnclaveInfo.decode?
  rw [← h.maxBasic_eq]
  by_cases hmax : s.maxBasic < 0x12
  · simp only [hmax, ↓reduceIte]
  · have hs : s.Supports 0x12 := (supports_basic (by decide)).2 (UInt32.not_lt.1 hmax)
    rw [h.getAt_eq_of_leaf _ _ _ (fun slot hg => by simp only [Slot.leaf, hg]) hs]

/-- The older cache leaves of AMD say the same. -/
theorem decodeAmd_eq (caches : CacheLevels) : Cache.decodeAmd s caches = Cache.decodeAmd t caches := by
  simp only [Cache.decodeAmd, h.extendedLeaf_eq]

/-- The caches of AMD are the same. -/
theorem amdCaches_eq (id : Identity) : Identify.amdCaches s id = Identify.amdCaches t id := by
  unfold Identify.amdCaches
  rw [← h.maxExtended_eq, h.decodeAmd_eq]
  split
  · rename_i hmax
    have hs : s.Supports 0x8000001D := (supports_extended (by decide)).2 hmax.2
    rw [h.slots_eq_of_leaf _ _ (fun slot hg => by simp only [Slot.leaf, hg]) hs]
  · rfl

/-! ## Vendors -/

/-- An Intel CPU is decoded the same. -/
theorem intel_eq (id : Identity) : Identify.intel s id = Identify.intel t id := by
  simp -zeta only [Identify.intel, h.addAll_eq, h.intelCaches_eq, Topology.decodeIntel, h.intelCounts_eq, h.purpose_ofIntel_eq,
    h.decode?_eq]

theorem amd_eq (id : Identity) : Identify.amd s id = Identify.amd t id := by
  simp -zeta only [Identify.amd, h.addAll_eq, h.amdCaches_eq, Topology.decodeAmd, h.amdCounts_eq, h.purpose_ofAmd_eq]

theorem centaur_eq (id : Identity) : Identify.centaur s id = Identify.centaur t id := by
  have hcaches : (if s.maxBasic ≥ 4 then Cache.decodeDeterministic (s.slots .cache) id.caches else id.caches) =
      if t.maxBasic ≥ 4 then Cache.decodeDeterministic (t.slots .cache) id.caches else id.caches := by
    rw [← h.maxBasic_eq]
    split
    · rename_i hmax
      rw [h.slots_cache_eq hmax]
    · rfl
  simp only [Identify.centaur, hcaches, Topology.decodeIntel, h.intelCounts_eq]

/-- An x86 CPU is identified the same. -/
theorem x86_eq : Identify.x86 s = Identify.x86 t := by
  simp only [Identify.x86, h.basic_eq, h.intel_eq, h.amd_eq, h.centaur_eq]

end AgreesWhereSupported

/-! ## Identities -/

/-- The first leaf decides whether a signature is of an x86 CPU. -/
theorem AgreesWhereSupported.hasFirstLeaf {s t : Signature} (h : AgreesWhereSupported s t) (hs : s.HasFirstLeaf) :
    t.HasFirstLeaf := by
  rwa [HasFirstLeaf, ← h.firstBasic]

/-- With a first leaf, the signature is one of x86. -/
theorem identify_of_hasFirstLeaf {s : Signature} (h : s.HasFirstLeaf) : s.identify = Identify.x86 s := by
  rw [identify, architecture_eq_x86_iff.2 h]

/-- Without its first leaf, a signature is identified by its ARM registers, if they tell a core. -/
theorem identify_of_not_hasFirstLeaf {s : Signature} (h : ¬ s.HasFirstLeaf) :
    s.identify = if (s.arm .midr).any (· != 0) then Identify.arm s.arm else .unknown := by
  have hfirst : ¬ ((s.getAt .basic 0).any fun r => !r.isZero) = true := fun hany => h (any_not_isZero_iff.1 hany)
  rw [identify, architecture, if_neg hfirst]
  by_cases hmidr : (s.arm .midr).any (· != 0) = true
  · rw [if_pos hmidr, if_pos hmidr]
  · rw [if_neg hmidr, if_neg hmidr]

/-- What the CPU does not report as supported is not looked at, in two parts.
1. Signatures with their first leaf are identified alike if they agree on it, on the first extended leaf and on every slot
whose leaf is supported, whatever their other slots and their ARM registers hold.
2. Signatures without their first leaf are identified alike if their ARM registers agree. -/
theorem identify_reads_supported :
    (∀ s t : Signature, s.HasFirstLeaf → s.AgreesWhereSupported t → s.identify = t.identify) ∧
    (∀ s t : Signature, ¬ s.HasFirstLeaf → ¬ t.HasFirstLeaf → s.arm = t.arm → s.identify = t.identify) := by
  constructor
  · intro s t hs h
    rw [identify_of_hasFirstLeaf hs, identify_of_hasFirstLeaf (h.hasFirstLeaf hs), h.x86_eq]
  · intro s t hs ht harm
    rw [identify_of_not_hasFirstLeaf hs, identify_of_not_hasFirstLeaf ht, harm]

/-- What an Intel CPU of two cores says that supports the leaves up to 2. -/
def upToLeaf2 : Signature :=
  (empty.setBasic 0 ⟨2, 0x756E6547, 0x6C65746E, 0x49656E69⟩).setBasic 1 ⟨0x6F2, 0x00020800, 0, 0x10000000⟩

/-- A sub-leaf of leaf 4 of eight cores, left over where leaf 4 is not supported, and where there is no leaf at all. -/
theorem identify_reads_supported_leftover :
    upToLeaf2.HasFirstLeaf ∧
      upToLeaf2.AgreesWhereSupported (upToLeaf2.setSlot (Group.firstSlot .cache) (some ⟨0x1C000121, 0, 0, 0⟩)) ∧
      upToLeaf2.identify = (upToLeaf2.setSlot (Group.firstSlot .cache) (some ⟨0x1C000121, 0, 0, 0⟩)).identify ∧
      ¬ empty.HasFirstLeaf ∧ ¬ (empty.setSlot (Group.firstSlot .cache) (some ⟨0x1C000121, 0, 0, 0⟩)).HasFirstLeaf ∧
      empty.identify = (empty.setSlot (Group.firstSlot .cache) (some ⟨0x1C000121, 0, 0, 0⟩)).identify := by
  have hfirst : upToLeaf2.HasFirstLeaf := ⟨_, rfl, by decide⟩
  have hagree : upToLeaf2.AgreesWhereSupported (upToLeaf2.setSlot (Group.firstSlot .cache) (some ⟨0x1C000121, 0, 0, 0⟩)) :=
    agreesWhereSupported_setSlot (by decide +kernel) (by decide) _
  have hnone : ∀ {s : Signature}, s.getAt .basic 0 = none → ¬ s.HasFirstLeaf := by
    rintro s hs ⟨r, hr, -⟩
    rw [hs] at hr
    cases hr
  have hempty : ¬ empty.HasFirstLeaf := hnone rfl
  have hleftover : ¬ (empty.setSlot (Group.firstSlot .cache) (some ⟨0x1C000121, 0, 0, 0⟩)).HasFirstLeaf := hnone rfl
  exact ⟨hfirst, hagree, identify_reads_supported.1 _ _ hfirst hagree, hempty, hleftover,
    identify_reads_supported.2 _ _ hempty hleftover rfl⟩

end Signature
end CpuIdent
