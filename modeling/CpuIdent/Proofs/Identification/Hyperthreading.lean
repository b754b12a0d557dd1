import CpuIdent.Proofs.Identification.Counts
import CpuIdent.Proofs.Identification.Flags

/-!
# Counts and the flag of hyperthreading

The rules on hyperthreading make counts and flag agree (`Agrees`): the flag is lost exactly where one core and one
logical CPU are left, and without it every logical CPU is a core. Applied again to what they leave, they change nothing
(`settle_again`), even where the counts depend on the flag, as those of AMD do. The divisions that the counts take are
by positive divisors, so a division that refuses any other divisor gives the same counts (`intelCountsBy_quotient?`,
`amdCountsBy_quotient?`). `decode_agrees` is the whole statement.
-/

namespace CpuIdent
namespace Topology

/-! ## The rules on hyperthreading -/

/-- Counts and flags agree on hyperthreading, and the flags are those before but for this one. -/
structure Agrees (before : FeatureSet X86Feature) (decoded : Counts × FeatureSet X86Feature) : Prop where
  cores_pos : 1 ≤ decoded.1.cores
  others : ∀ f, f ≠ .ht → (f ∈ decoded.2 ↔ f ∈ before)
  ht_iff : .ht ∈ decoded.2 ↔ .ht ∈ before ∧ decoded.1 ≠ ⟨1, 1⟩
  cores_eq : ¬ .ht ∈ decoded.2 → decoded.1.cores = decoded.1.logical

section

variable {c c' : Counts} {flags : FeatureSet X86Feature}

/-- After the rules, counts and flag agree. -/
theorem settle_agrees (c : Counts) (flags : FeatureSet X86Feature) : Agrees flags (settle c flags) := by
  have hiff : .ht ∈ (settle c flags).2 ↔ .ht ∈ flags ∧ (settle c flags).1 ≠ ⟨1, 1⟩ := by
    rw [mem_settle_iff]
    simp
  refine ⟨(settle_settles c flags).cores_pos, fun f hf => ?_, hiff, fun hnot => ?_⟩
  · rw [mem_settle_iff]
    simp [hf]
  · by_cases hht : .ht ∈ flags
    · have hone : (settle c flags).1 = ⟨1, 1⟩ := Decidable.byContradiction fun hne => hnot (hiff.2 ⟨hht, hne⟩)
      rw [hone]
    · rw [settle_of_not_ht hht]

/-- The rules leave the flags, or they leave one core and one logical CPU without hyperthreading. -/
theorem settle_cases (c : Counts) (flags : FeatureSet X86Feature) :
    (settle c flags).2 = flags ∨ (max c.logical 1 = 1 ∧ settle c flags = (⟨1, 1⟩, flags.erase .ht)) := by
  unfold settle
  split
  · split
    · exact Or.inl rfl
    · by_cases hone : max c.logical 1 = 1
      · exact Or.inr ⟨hone, by simp [hone]⟩
      · exact Or.inl (by simp [hone])
  · exact Or.inl rfl

/-- The rules change nothing when they are applied to the flags that they left, with counts of as many logical CPUs that are
the same as before if the flags are. -/
theorem settle_again (hlogical : c'.logical = c.logical) (hcounts : (settle c flags).2 = flags → c' = c) :
    settle c' (settle c flags).2 = settle c flags := by
  rcases settle_cases c flags with hsame | ⟨hone, hlost⟩
  · rw [hsame, hcounts hsame]
  · have hnot : ¬ .ht ∈ flags.erase .ht := fun hmem => (FeatureSet.mem_erase.1 hmem).2 rfl
    rw [hlost, settle_of_not_ht hnot, hlogical, hone]

end

/-! ## Divisions -/

/-- Division of machine integers, refused unless the divisor is positive. -/
def quotient? (n d : Int) : Option Int := if 0 < d then some (quotient n d) else none

/-- A positive divisor is not refused. -/
theorem quotient?_of_pos (n : Int) {d : Int} (h : 0 < d) : quotient? n d = some (quotient n d) := if_pos h

/-- The extended topology leaf divides by a count of threads that is positive. -/
theorem extendedBy_quotient? (s : Signature) : extendedBy quotient? s = some (extended? s) := by
  unfold extended? extendedBy
  split
  · rfl
  · dsimp only
    split
    · rename_i hpos
      rw [quotient?_of_pos _ (Int.natCast_pos.2 hpos.1)]
      rfl
    · rfl

/-- No division of an Intel or Centaur CPU is refused. -/
theorem intelCountsBy_quotient? (s : Signature) : intelCountsBy quotient? s = some (intelCounts s) := by
  have hextended : extendedBy (m := Id) quotient s = extended? s := rfl
  rw [intelCountsBy, extendedBy_quotient?, intelCounts, intelCountsBy, hextended]
  cases extended? s with
  | some c => rfl
  | none => rfl

/-- The threads of a core are one more than a byte states. -/
theorem threadsPerCore_pos (r : Regs) : 0 < threadsPerCore r := Int.natCast_succ_pos _

/-- No division of an AMD or Hygon CPU is refused. -/
theorem amdCountsBy_quotient? (s : Signature) (extFamily : Int) (flags : FeatureSet X86Feature) :
    amdCountsBy quotient? s extFamily flags = some (amdCounts s extFamily flags) := by
  unfold amdCounts amdCountsBy amdCoresBy
  split
  · cases s.extendedLeaf 0x8000001E with
    | none => rfl
    | some r =>
      dsimp only
      rw [quotient?_of_pos _ (threadsPerCore_pos r)]
      rfl
  · rfl

/-! ## Both families of vendors -/

/-- The counts of Intel do not depend on the flag. -/
theorem decodeIntel_again (s : Signature) (flags : FeatureSet X86Feature) :
    decodeIntel s (decodeIntel s flags).2 = decodeIntel s flags :=
  settle_again rfl fun _ => rfl

/-- The counts of AMD depend on the flag, so they may change when it is lost; but then one core is left all the same. -/
theorem decodeAmd_again (s : Signature) (extFamily : Int) (flags : FeatureSet X86Feature) :
    decodeAmd s extFamily (decodeAmd s extFamily flags).2 = decodeAmd s extFamily flags := by
  refine settle_again rfl fun hsame => ?_
  rw [decodeAmd, hsame]

/-- Both decoders count at least one core, change no flag but that of hyperthreading, and drop this one exactly where one core
and one logical CPU are left; without it, every logical CPU is a core. Their divisions are by positive divisors. Decoding
again with the flags that are left gives the same counts and flags. -/
theorem decode_agrees (s : Signature) (extFamily : Int) (flags : FeatureSet X86Feature) :
    (Agrees flags (decodeIntel s flags) ∧ Agrees flags (decodeAmd s extFamily flags)) ∧
    (intelCountsBy quotient? s = some (intelCounts s) ∧
      amdCountsBy quotient? s extFamily flags = some (amdCounts s extFamily flags)) ∧
    decodeIntel s (decodeIntel s flags).2 = decodeIntel s flags ∧
    decodeAmd s extFamily (decodeAmd s extFamily flags).2 = decodeAmd s extFamily flags :=
  ⟨⟨settle_agrees _ _, settle_agrees _ _⟩, ⟨intelCountsBy_quotient? s, amdCountsBy_quotient? s extFamily flags⟩,
    decodeIntel_again s flags, decodeAmd_again s extFamily flags⟩

end Topology
end CpuIdent
