import CpuIdent.Identify
import CpuIdent.Proofs.Signature.Supported

/-!
# Feature flags of x86 CPUs

A flag stands for a bit that the CPU reports (`LeafTable.Reports`): the tables of a vendor add the flags of the bits that
are set (`mem_addAll`), and no stage after them changes a flag but the rules on hyperthreading, which drop one flag where
one core and one logical CPU are left (`Topology.mem_settle_iff`). So the flags of an identity are exactly the bits
reported (`mem_x86Features_iff`).
-/

namespace CpuIdent

/-! ## Bits -/

/-- A bit of a word is a binary digit of it. -/
theorem Bits.bit_eq_testBit (value : UInt32) {index : Nat} (h : index < 32) :
    Bits.bit value index = value.toNat.testBit index := by
  have hshift : (value >>> UInt32.ofNat index).toNat = value.toNat >>> index := by
    rw [UInt32.toNat_shiftRight, UInt32.toNat_ofNat', Nat.mod_mod_of_dvd _ (by decide), Nat.mod_eq_of_lt h]
  have hone : ((value >>> UInt32.ofNat index) &&& 1).toNat = value.toNat >>> index % 2 := by
    rw [UInt32.toNat_and, hshift]
    exact Nat.and_one_is_mod _
  rw [Bits.bit, Nat.testBit_eq_decide_div_mod_eq, ← Nat.shiftRight_eq_div_pow, ← hone, Bool.eq_iff_iff, beq_iff_eq,
    decide_eq_true_eq, ← UInt32.toNat_inj]
  rfl

namespace LeafTable

/-- The tables of a vendor. -/
def ofVendor : Vendor → List LeafTable
  | .intel => common ++ intel
  | .amd | .hygon => common ++ amd
  | _ => common

/-- A row of the table has the feature, the CPU supports the leaf of the table and its answer is known, and the bit of the
row is set in the register of the table. -/
def Reports (t : LeafTable) (s : Signature) (f : X86Feature) : Prop :=
  ∃ n r, (n, f) ∈ t.bits ∧ s.Answers t.leaf r ∧ (t.register.of r).toNat.testBit n = true

/-- The rows of a table are bits of a register. -/
def Fits (t : LeafTable) : Prop := ∀ row ∈ t.bits, row.1 < 32

instance (t : LeafTable) : Decidable t.Fits := inferInstanceAs (Decidable (∀ row ∈ t.bits, row.1 < 32))

/-- The tables of every vendor name bits of a word. -/
theorem fits_ofVendor (v : Vendor) : ∀ t ∈ ofVendor v, t.Fits := by
  have hall : ∀ t ∈ common ++ intel ++ amd, t.Fits := by decide +kernel
  intro t ht
  refine hall t ?_
  cases v <;> simp only [ofVendor, List.mem_append] at ht ⊢ <;> grind

section

variable {t : LeafTable} {s : Signature} {flags : FeatureSet X86Feature} {f : X86Feature}

/-- A row is added if its bit is set. -/
theorem mem_addMatches (ht : t.Fits) (w : UInt32) :
    f ∈ flags.addMatches t.bits w ↔ f ∈ flags ∨ ∃ n, (n, f) ∈ t.bits ∧ w.toNat.testBit n = true := by
  have hrow : (∃ row ∈ t.bits, row.2 = f ∧ Bits.bit w row.1 = true) ↔ ∃ n, (n, f) ∈ t.bits ∧ w.toNat.testBit n = true := by
    constructor
    · rintro ⟨⟨n, f⟩, hmem, rfl, hbit⟩
      exact ⟨n, hmem, Bits.bit_eq_testBit w (ht _ hmem) ▸ hbit⟩
    · rintro ⟨n, hmem, hbit⟩
      exact ⟨(n, f), hmem, rfl, (Bits.bit_eq_testBit w (ht _ hmem)).trans hbit⟩
  rw [← hrow]
  exact FeatureSet.contains_foldl_insertIf Prod.snd (fun row => Bits.bit w row.1) t.bits flags f

/-- A table adds what it reports. -/
theorem mem_addTo (ht : t.Fits) : f ∈ t.addTo s flags ↔ f ∈ flags ∨ t.Reports s f := by
  unfold addTo
  cases hleaf : s.leaf t.leaf with
  | none =>
    have hnot : ¬ t.Reports s f := by
      rintro ⟨n, r, -, hr, -⟩
      rw [Signature.leaf_eq_some_iff.2 hr] at hleaf
      cases hleaf
    simp [hnot]
  | some r =>
    have hreports : t.Reports s f ↔ ∃ n, (n, f) ∈ t.bits ∧ (t.register.of r).toNat.testBit n = true := by
      constructor
      · rintro ⟨n, r', hmem, hr', hbit⟩
        obtain rfl : r = r' := Option.some.inj (hleaf.symm.trans (Signature.leaf_eq_some_iff.2 hr'))
        exact ⟨n, hmem, hbit⟩
      · rintro ⟨n, hmem, hbit⟩
        exact ⟨n, r, hmem, Signature.leaf_eq_some_iff.1 hleaf, hbit⟩
    rw [hreports]
    exact mem_addMatches ht _

/-- Tables add the features that they report. -/
theorem mem_addAll {tables : List LeafTable} (ht : ∀ t ∈ tables, t.Fits) :
    f ∈ addAll tables s flags ↔ f ∈ flags ∨ ∃ t ∈ tables, t.Reports s f := by
  unfold addAll
  induction tables generalizing flags with
  | nil => simp
  | cons t tables ih =>
    obtain ⟨hfits, htables⟩ := List.forall_mem_cons.1 ht
    rw [List.foldl_cons, ih htables, mem_addTo hfits, or_assoc]
    simp only [List.mem_cons, exists_eq_or_imp]

/-- Tables are read one run after the other. -/
theorem addAll_append (tables tables' : List LeafTable) (s : Signature) (flags : FeatureSet X86Feature) :
    addAll (tables ++ tables') s flags = addAll tables' s (addAll tables s flags) :=
  List.foldl_append

end

end LeafTable

/-! ## The rules on hyperthreading -/

/-- The flags after the rules are those before them, without hyperthreading if one core and one logical CPU are left. -/
theorem Topology.mem_settle_iff {c : Counts} {flags : FeatureSet X86Feature} {f : X86Feature} :
    f ∈ (settle c flags).2 ↔ f ∈ flags ∧ ¬ (f = .ht ∧ (settle c flags).1 = ⟨1, 1⟩) := by
  have hindex : Feature.index X86Feature.ht = Feature.index f ↔ f = .ht :=
    ⟨fun h => (Feature.index_injective h).symm, fun h => h ▸ rfl⟩
  unfold settle
  split
  · split
    · rename_i hcores
      have hne : c ≠ ⟨1, 1⟩ := by
        rintro rfl
        exact absurd hcores (by decide)
      simp [hne]
    · by_cases hone : max c.logical 1 = 1
      · simp [hone, FeatureSet.mem_def, hindex]
      · simp [hone]
  · rename_i hht
    have hnot : f ∈ flags → f ≠ .ht := by
      rintro hf rfl
      exact hht hf
    simp only [iff_self_and]
    exact fun hf hand => hnot hf hand.1

namespace Identity

/-- The flags and the counts of an identity are those that the rules on hyperthreading leave of some flags. -/
def Settled (id : Identity) (flags : FeatureSet X86Feature) : Prop :=
  ∃ c, id.x86Features = (Topology.settle c flags).2 ∧ id.cores = (Topology.settle c flags).1.cores ∧
    id.logicalCpus = (Topology.settle c flags).1.logical

/-- Settling takes no flag but that of hyperthreading, where one core and one logical CPU are left. -/
theorem Settled.mem_iff {id : Identity} {flags : FeatureSet X86Feature} (h : id.Settled flags) {f : X86Feature} :
    f ∈ id.x86Features ↔ f ∈ flags ∧ ¬ (f = .ht ∧ id.cores = 1 ∧ id.logicalCpus = 1) := by
  obtain ⟨c, hflags, hcores, hlogical⟩ := h
  rw [hflags, hcores, hlogical, Topology.mem_settle_iff, Topology.Counts.mk.injEq]

end Identity

/-! ## Stages of the identification -/

namespace Codename

variable (table : List CodenameRow) (id : Identity)

/-- Naming leaves the vendor. -/
@[simp] theorem assign_vendor : (assign table id).1.vendor = id.vendor := by
  unfold assign; dsimp only; split <;> rfl

@[simp] theorem assign_x86Features : (assign table id).1.x86Features = id.x86Features := by
  unfold assign; dsimp only; split <;> rfl

@[simp] theorem assign_cores : (assign table id).1.cores = id.cores := by
  unfold assign; dsimp only; split <;> rfl

@[simp] theorem assign_logicalCpus : (assign table id).1.logicalCpus = id.logicalCpus := by
  unfold assign; dsimp only; split <;> rfl

end Codename

namespace Identify

variable (s : Signature) (id : Identity)

/-- Decoding an Intel CPU leaves the vendor. -/
@[simp] theorem intel_vendor : (intel s id).vendor = id.vendor := by
  simp [intel, withCounts]

@[simp] theorem amd_vendor : (amd s id).vendor = id.vendor := by
  simp [amd, withCounts]

@[simp] theorem centaur_vendor : (centaur s id).vendor = id.vendor := by
  simp [centaur, withCounts]

/-- The flags of an Intel CPU are those of its tables, settled with the counts. -/
theorem intel_settled : (intel s id).Settled (LeafTable.addAll LeafTable.intel s id.x86Features) :=
  ⟨Topology.intelCounts s, by simp [intel, withCounts, Topology.decodeIntel]⟩

/-- The flags of an AMD or Hygon CPU are those of its tables, settled with the counts. -/
theorem amd_settled : (amd s id).Settled (LeafTable.addAll LeafTable.amd s id.x86Features) :=
  ⟨Topology.amdCounts s id.extFamily (LeafTable.addAll LeafTable.amd s id.x86Features),
    by simp [amd, withCounts, Topology.decodeAmd]⟩

/-- The flags of a Centaur CPU are those of all vendors, settled with the counts. -/
theorem centaur_settled : (centaur s id).Settled id.x86Features :=
  ⟨Topology.intelCounts s, by simp [centaur, withCounts, Topology.decodeIntel]⟩

/-- The flags of all vendors are read first. -/
theorem basic_x86Features : (basic s).x86Features = LeafTable.addAll LeafTable.common s .empty := by
  unfold basic; dsimp only; split <;> rfl

/-- No core is counted before the vendor is asked. -/
theorem basic_cores : (basic s).cores = -1 := by
  unfold basic; dsimp only; split <;> rfl

/-- The vendor is settled by leaf 0 alone. -/
theorem x86_vendor : (x86 s).vendor = (basic s).vendor := by
  unfold x86
  dsimp only
  split <;> simp

/-- Whichever vendor completes the identity, its flags are those of the tables of the vendor, without hyperthreading if
one core and one logical CPU are left. -/
theorem mem_x86Features_x86 (f : X86Feature) :
    f ∈ (x86 s).x86Features ↔ f ∈ LeafTable.addAll (LeafTable.ofVendor (basic s).vendor) s .empty ∧
      ¬ (f = .ht ∧ (x86 s).cores = 1 ∧ (x86 s).logicalCpus = 1) := by
  unfold x86
  dsimp only
  split
  · rename_i hv
    rw [(intel_settled s (basic s)).mem_iff, basic_x86Features, hv, LeafTable.ofVendor, LeafTable.addAll_append]
  · rename_i hv
    rw [(amd_settled s (basic s)).mem_iff, basic_x86Features, hv, LeafTable.ofVendor, LeafTable.addAll_append]
  · rename_i hv
    rw [(amd_settled s (basic s)).mem_iff, basic_x86Features, hv, LeafTable.ofVendor, LeafTable.addAll_append]
  · rename_i hv
    rw [(centaur_settled s (basic s)).mem_iff, basic_x86Features, hv]
    exact Iff.rfl
  · -- Without a decoder of its own, a vendor keeps the common flags, and no core is counted.
    rename_i hintel hamd hhygon _
    have htables : LeafTable.ofVendor (basic s).vendor = LeafTable.common := by
      unfold LeafTable.ofVendor
      split
      · exact absurd ‹_› hintel
      · exact absurd ‹_› hamd
      · exact absurd ‹_› hhygon
      · rfl
    rw [htables, basic_x86Features, basic_cores]
    simp

end Identify

/-! ## Identities -/

/-- A flag of an x86 CPU is set exactly if a table of its vendor reports it, but for hyperthreading, which is also missing
where one core and one logical CPU are counted. -/
theorem Signature.mem_x86Features_iff (s : Signature) (h : s.architecture = .x86) (f : X86Feature) :
    f ∈ s.identify.x86Features ↔ (∃ t ∈ LeafTable.ofVendor s.identify.vendor, t.Reports s f) ∧
      ¬ (f = .ht ∧ s.identify.cores = 1 ∧ s.identify.logicalCpus = 1) := by
  have hid : s.identify = Identify.x86 s := by rw [identify, h]
  rw [hid, Identify.mem_x86Features_x86, Identify.x86_vendor, LeafTable.mem_addAll (LeafTable.fits_ofVendor _),
    FeatureSet.mem_def, FeatureSet.contains_empty]
  simp

/-- What an Intel CPU of one core and one logical CPU says, with the bits of hyperthreading and of a thermal monitor set. -/
def Signature.single : Signature :=
  (empty.setBasic 0 ⟨1, 0x756E6547, 0x6C65746E, 0x49656E69⟩).setBasic 1 ⟨0x6D8, 0x00010000, 0, 0x30000000⟩

/-- One core and one logical CPU do not have hyperthreading, though its bit is set; the thermal monitor of Intel stays. -/
theorem Signature.mem_x86Features_iff_single :
    single.architecture = .x86 ∧ .tm ∈ single.identify.x86Features ∧ .ht ∉ single.identify.x86Features := by
  have harch : single.architecture = .x86 := by decide +kernel
  have hvendor : single.identify.vendor = .intel := by decide +kernel
  have hcounts : single.identify.cores = 1 ∧ single.identify.logicalCpus = 1 := by decide +kernel
  have htable : ⟨1, .edx, [(18, .pn), (21, .dts), (22, .acpi), (27, .ss), (29, .tm), (30, .ia64), (31, .pbe)]⟩ ∈
      LeafTable.ofVendor .intel := by decide +kernel
  have hleaf : single.Answers 1 ⟨0x6D8, 0x00010000, 0, 0x30000000⟩ := leaf_eq_some_iff.1 (by decide +kernel)
  refine ⟨harch, (mem_x86Features_iff single harch .tm).2 ⟨?_, by decide⟩, fun hht => ?_⟩
  · rw [hvendor]
    exact ⟨_, htable, 29, _, by decide, hleaf, by decide⟩
  · exact ((mem_x86Features_iff single harch .ht).1 hht).2 ⟨rfl, hcounts⟩

end CpuIdent
