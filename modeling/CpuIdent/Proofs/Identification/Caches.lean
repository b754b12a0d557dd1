import CpuIdent.Proofs.Cache.Bounds
import CpuIdent.Proofs.Identification.Naming

/-!
# Caches of identities

Caches are decoded once, from a state in which nothing is known of them, and no later stage writes them. So no cache of an
identity is known by halves, and only the vendors with a decoder of their own say anything of caches at all
(`Signature.identify_caches`).
-/

namespace CpuIdent

/-! ## Stages of the identification -/

/-- Naming leaves the caches. -/
@[simp] theorem Codename.assign_caches (table : List CodenameRow) (id : Identity) : (assign table id).1.caches = id.caches := by
  unfold assign; dsimp only; split <;> rfl

namespace Identify

section

variable (s : Signature) {id : Identity}

/-- No cache is known before the vendor is asked. -/
theorem basic_caches : (basic s).caches = .unknown := by
  unfold basic; dsimp only; split <;> rfl

/-- The cache leaves of Intel keep the caches whole. -/
theorem intelCaches_whole (h : id.caches.Whole) : (intelCaches s id).Whole := by
  unfold intelCaches
  split
  · exact Cache.decodeDeterministic_whole _ h
  · split
    · exact Cache.decodeDescriptors_whole _ _ _ h
    · exact h

/-- The cache leaves of AMD, old and new, keep the caches whole. -/
theorem amdCaches_whole (h : id.caches.Whole) : (amdCaches s id).Whole := by
  unfold amdCaches
  split
  · exact Cache.decodeDeterministic_whole _ h
  · exact Cache.decodeAmd_whole s h

/-- Decoding an Intel CPU keeps the caches whole. -/
theorem intel_caches_whole (h : id.caches.Whole) : (intel s id).caches.Whole := by
  simp only [intel, withCounts, Codename.assign_caches]
  exact intelCaches_whole s h

theorem amd_caches_whole (h : id.caches.Whole) : (amd s id).caches.Whole := by
  simp only [amd, withCounts, Codename.assign_caches]
  exact amdCaches_whole s h

theorem centaur_caches_whole (h : id.caches.Whole) : (centaur s id).caches.Whole := by
  simp only [centaur, withCounts, Codename.assign_caches]
  split
  · exact Cache.decodeDeterministic_whole _ h
  · exact h

end

/-- The caches of every x86 CPU are whole. -/
theorem x86_caches_whole (s : Signature) : (x86 s).caches.Whole := by
  have hbasic : (basic s).caches.Whole := by
    rw [basic_caches]
    exact CacheLevels.unknown_whole
  obtain ⟨level, hlevel⟩ := exists_x86_eq s
  rw [hlevel]
  show (completed s).caches.Whole
  unfold completed
  split
  · exact intel_caches_whole s hbasic
  · exact amd_caches_whole s hbasic
  · exact amd_caches_whole s hbasic
  · exact centaur_caches_whole s hbasic
  · exact hbasic

/-- A vendor without a decoder of its own says nothing of caches. -/
theorem x86_caches_unknown {s : Signature} (h : (x86 s).vendor ∉ [.intel, .amd, .hygon, .centaur]) :
    (x86 s).caches = .unknown := by
  rw [x86_vendor] at h
  obtain ⟨level, hlevel⟩ := exists_x86_eq s
  rw [hlevel, completed_eq_basic, basic_caches]
  cases hv : (basic s).vendor <;> simp_all [Codename.table?]

end Identify

/-! ## Identities -/

/-- No cache of an identity is known by halves, in four parts.
1. Each slot is unknown altogether, or has a size of 0 up to the largest, ways up to 1024 and lines up to 4096 bytes; only
ways and lines may then be unknown.
2. A signature that is not of x86, and a CPU of a vendor without a decoder of its own, leave every slot unknown.
3. Decoding a sub-leaf multiplies exactly, and reads no word as another number; only a size past the largest is cut.
4. So does decoding a word of the older leaves of AMD. -/
theorem Signature.identify_caches (s : Signature) :
    (∀ slot, s.identify.caches.get slot = .unknown ∨ (s.identify.caches.get slot).Bounded) ∧
    (s.architecture ≠ .x86 ∨ s.identify.vendor ∉ [.intel, .amd, .hygon, .centaur] → ∀ slot,
      s.identify.caches.get slot = .unknown) ∧
    (∀ r c, Cache.Deterministic.decode? r = some c → c.Exact) ∧
    ∀ w, Cache.AmdExact w := by
  refine ⟨?_, ?_, fun r c hc => Cache.Deterministic.exact_of_decode? hc, Cache.amdExact⟩
  · show s.identify.caches.Whole
    unfold identify
    split
    · exact Identify.x86_caches_whole s
    · exact CacheLevels.unknown_whole
    · exact CacheLevels.unknown_whole
  · intro h slot
    suffices hcaches : s.identify.caches = .unknown by
      rw [hcaches]
      cases slot <;> rfl
    unfold identify at h ⊢
    split at h
    · rename_i harch
      exact Identify.x86_caches_unknown (h.resolve_left (· harch))
    · rfl
    · rfl

end CpuIdent
