import CpuIdent.Topology

/-!
# Cores and logical CPUs

The rules on hyperthreading leave at least one core, and no fewer logical CPUs than cores unless the counts that the
leaves state contradict each other (`Counts.Contradict`): under the flag of hyperthreading, more than one core is
believed, and the count of logical CPUs is taken as it is stated, even if it is smaller. The extended topology leaf of
Intel never contradicts itself. `decode_settles` is the whole statement.
-/

namespace CpuIdent
namespace Topology

/-- At least one core, and no fewer logical CPUs. -/
def Counts.Consistent (c : Counts) : Prop := 1 ≤ c.cores ∧ c.cores ≤ c.logical

/-- Counts stated under the flag of hyperthreading contradict each other: several cores, and fewer logical CPUs. -/
structure Counts.Contradict (c : Counts) (flags : FeatureSet X86Feature) : Prop where
  ht : .ht ∈ flags
  several : 1 < c.cores
  fewer : c.logical < c.cores

/-! ## The rules on hyperthreading -/

section

variable {c : Counts} {flags : FeatureSet X86Feature}

/-- With the flag, several cores are believed. -/
theorem settle_of_several (hht : .ht ∈ flags) (hcores : 1 < c.cores) : settle c flags = (c, flags) := by
  rw [FeatureSet.mem_def] at hht
  rw [settle, if_pos hht, if_pos hcores]

/-- With the flag, there is one core otherwise. -/
theorem settle_of_single (hht : .ht ∈ flags) (hcores : ¬ 1 < c.cores) : (settle c flags).1 = ⟨1, max c.logical 1⟩ := by
  rw [FeatureSet.mem_def] at hht
  rw [settle, if_pos hht, if_neg hcores]

/-- Without the flag, every logical CPU is a core. -/
theorem settle_of_not_ht (hht : ¬ .ht ∈ flags) : settle c flags = (⟨max c.logical 1, max c.logical 1⟩, flags) := by
  rw [FeatureSet.mem_def] at hht
  rw [settle, if_neg hht]

/-- What the rules make of stated counts. -/
structure Settles (stated : Counts) (flags : FeatureSet X86Feature) (counts : Counts) : Prop where
  cores_pos : 1 ≤ counts.cores
  /-- Fewer logical CPUs than cores are left only where the stated counts contradict each other. -/
  le_iff : counts.cores ≤ counts.logical ↔ ¬ stated.Contradict flags
  /-- Counts that contradict each other are taken as they are stated. -/
  eq_stated : stated.Contradict flags → counts = stated

/-- The rules settle any stated counts. -/
theorem settle_settles (c : Counts) (flags : FeatureSet X86Feature) : Settles c flags (settle c flags).1 := by
  by_cases hht : .ht ∈ flags
  · by_cases hcores : 1 < c.cores
    · rw [settle_of_several hht hcores]
      refine ⟨Int.le_of_lt hcores, ⟨fun hle hc => ?_, fun hnot => ?_⟩, fun _ => rfl⟩
      · exact Int.not_le.2 hc.fewer hle
      · exact Int.not_lt.1 fun hlt => hnot ⟨hht, hcores, hlt⟩
    · rw [settle_of_single hht hcores]
      have hnot : ¬ c.Contradict flags := fun hc => hcores hc.several
      exact ⟨Int.le_refl 1, iff_of_true (Int.le_max_right _ _) hnot, fun hc => absurd hc hnot⟩
  · rw [settle_of_not_ht hht]
    have hnot : ¬ c.Contradict flags := fun hc => hht hc.ht
    exact ⟨Int.le_max_right _ _, iff_of_true (Int.le_refl _) hnot, fun hc => absurd hc hnot⟩

end

/-! ## The leaves of both families of vendors -/

/-- The extended topology leaf states no fewer logical CPUs than cores: it states how many of them a core runs. -/
theorem le_of_extended?_eq_some {s : Signature} {c : Counts} (h : extended? s = some c) : c.cores ≤ c.logical := by
  unfold extended? extendedBy at h
  split at h
  · cases h
  · dsimp only at h
    split at h
    · cases h
      exact Int.ofNat_le.2 (Nat.div_le_self _ _)
    · cases h

/-- Counts that contradict each other do not come from the extended topology leaf. -/
theorem extended?_eq_none_of_contradict {s : Signature} {flags : FeatureSet X86Feature}
    (h : (intelCounts s).Contradict flags) : extended? s = none := by
  cases hext : extended? s with
  | none => rfl
  | some c =>
    have hrun : extendedBy quotient s = some c := hext
    have hcounts : intelCounts s = c := by
      rw [intelCounts, intelCountsBy, hrun]
      rfl
    rw [hcounts] at h
    exact absurd h.fewer (Int.not_lt.2 (le_of_extended?_eq_some hext))

/-- Both decoders count at least one core, and no more cores than logical CPUs unless the leaves contradict each other.
Then the counts are those of the leaves; on Intel, of leaves 1 and 4 and not of the extended topology leaf. -/
theorem decode_settles (s : Signature) (extFamily : Int) (flags : FeatureSet X86Feature) :
    Settles (intelCounts s) flags (decodeIntel s flags).1 ∧ ((intelCounts s).Contradict flags → extended? s = none) ∧
      Settles (amdCounts s extFamily flags) flags (decodeAmd s extFamily flags).1 :=
  ⟨settle_settles _ _, extended?_eq_none_of_contradict, settle_settles _ _⟩

/-- An Intel CPU of which leaf 4 states eight cores and leaf 1 a single logical CPU. -/
def eightOnOne : Signature :=
  ((Signature.empty.setBasic 0 ⟨4, 0x756E6547, 0x6C65746E, 0x49656E69⟩).setBasic 1 ⟨0x6FB, 0x00010000, 0, 0x10000000⟩).setAt
    .cache 0 (some ⟨0x1C000121, 0x01C0003F, 0x0000003F, 0⟩)

/-- The counts may have fewer logical CPUs than cores. -/
theorem not_forall_consistent :
    ¬ ∀ (s : Signature) (extFamily : Int) (flags : FeatureSet X86Feature),
      (decodeIntel s flags).1.Consistent ∧ (decodeAmd s extFamily flags).1.Consistent := by
  intro h
  have hcounts : (decodeIntel eightOnOne (.ofList [.ht])).1 = ⟨8, 1⟩ := by decide +kernel
  have hle := (h eightOnOne 6 (.ofList [.ht])).1.2
  rw [hcounts] at hle
  exact absurd hle (by decide)

end Topology
end CpuIdent
