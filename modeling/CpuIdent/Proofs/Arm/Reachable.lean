import CpuIdent.Proofs.Arm.Climb

/-!
# Which levels are reached

A field of a known register has one value. v8.2 requires version 8 of the debug architecture and v8.4 requires version
9, each told by its own exact value of one field, so that the flags never justify both, and no core is found above
v8.3 (`ofArm_eq_iff`). The levels below that are all reached, each by a core given here.
-/

namespace CpuIdent

/-- A field holds one value: two probes of one field that both hold look for the same value. -/
theorem FieldProbe.value_eq_of_holds {regs : ArmRegisters} {p q : FieldProbe} (hp : p.holds regs = true)
    (hq : q.holds regs = true) (hr : p.register = q.register) (hh : p.high = q.high) (hl : p.low = q.low) :
    p.value = q.value := by
  unfold FieldProbe.holds at hp hq
  rw [hr, hh, hl] at hp
  cases hv : regs q.register with
  | none => simp [hv] at hp
  | some v =>
    simp only [hv, Option.any_some, beq_iff_eq] at hp hq
    exact hp.symm.trans hq

/-- A rule with one probe holds exactly when the probe does. -/
theorem FeatureRule.holds_singleton {regs : ArmRegisters} {r : FeatureRule} {p : FieldProbe} (h : r.probes = [p]) :
    r.holds regs = p.holds regs := by
  rw [FeatureRule.holds, h, List.any_cons, List.any_nil, Bool.or_false]

namespace FeatureLevel

/-! ## The conflict -/

/-- The rule of the debug architecture that v8.2 requires. -/
def debugV8p2 : FeatureRule := ⟨.debugV8p2, FeatureRule.anyOf .idAa64Dfr0 3 0 [8], some .armV8_1A, some .armV8_2A⟩

/-- The rule of the debug architecture that v8.4 requires. -/
def debugV8p4 : FeatureRule := ⟨.debugV8p4, FeatureRule.anyOf .idAa64Dfr0 3 0 [9], some .armV8_3A, some .armV8_4A⟩

/-- A level that requires a rule's feature is justified only where the rule holds. -/
theorem holds_of_justified {regs : ArmRegisters} {r : FeatureRule} {l : FeatureLevel} (hr : r ∈ FeatureRule.all)
    (hm : r.mandatoryFrom = some l) (h : Listing.Justified (Finding.flags (Finding.all regs)) l) : r.holds regs = true := by
  have hmem : r.feature ∈ Listing.mandatoryAt l :=
    Listing.mem_mandatoryAt.2 ⟨r.listing, List.mem_append_left _ (List.mem_map_of_mem hr), hm, rfl⟩
  exact (Finding.mem_flags_iff_holds regs hr).1 (h.1 _ hmem)

/-- No registers justify both v8.2 and v8.4. -/
theorem not_justified_both (regs : ArmRegisters) :
    ¬ (Listing.Justified (Finding.flags (Finding.all regs)) armV8_2A ∧
      Listing.Justified (Finding.flags (Finding.all regs)) armV8_4A) := by
  rintro ⟨h2, h4⟩
  have p2 := holds_of_justified (r := debugV8p2) (by decide +kernel) rfl h2
  have p4 := holds_of_justified (r := debugV8p4) (by decide +kernel) rfl h4
  rw [FeatureRule.holds_singleton rfl] at p2 p4
  exact absurd (FieldProbe.value_eq_of_holds p2 p4 rfl rfl rfl) (by decide)

/-- A climb ends at v8.3 at the latest. -/
theorem ofAProfile_mem_upToV8_3 (regs : ArmRegisters) :
    ofAProfile (LevelTally.ofFindings (Finding.all regs)) ∈ [unknown, armV8_0A, armV8_1A, armV8_2A, armV8_3A] := by
  have hmem := ofAProfile_mem (LevelTally.ofFindings (Finding.all regs))
  have hwalk : ∀ l ∈ [armV8_2A, armV8_4A], l ∈ Listing.walk (Finding.flags (Finding.all regs)) := by
    simp [Listing.walk]
  have hlow : ¬ armV8_4A ≤ ofAProfile (LevelTally.ofFindings (Finding.all regs)) := by
    intro h
    have hall := (le_ofAProfile_iff (hwalk _ (by simp))).1 h
    exact not_justified_both regs ⟨hall _ (hwalk _ (by simp)) (by decide), hall _ (hwalk _ (by simp)) (by decide)⟩
  have hcases : ∀ l ∈ unknown :: Listing.walk (Finding.flags (Finding.all regs)), ¬ armV8_4A ≤ l →
      l ∈ [unknown, armV8_0A, armV8_1A, armV8_2A, armV8_3A] := by
    unfold Listing.walk
    split <;> decide
  rw [climb_eq_walk] at hmem
  exact hcases _ hmem hlow

/-! ## A core for each level -/

/-- Registers with which the climb ends at each of the levels that can be reached. -/
def coreAt : FeatureLevel → List (ArmRegister × UInt64)
  | armV8_0A => []
  | armV8_1A => [(.idAa64Isar0, 0x210000), (.idAa64Mmfr1, 0x111000)]
  | armV8_2A => [(.idAa64Isar0, 0x210000), (.idAa64Mmfr1, 0x211000), (.idAa64Dfr0, 0x8), (.idAa64Isar1, 0x1),
      (.idAa64Mmfr2, 0x11), (.idAa64Pfr0, 0x10000000)]
  | armV8_3A => [(.idAa64Isar0, 0x210000), (.idAa64Mmfr1, 0x211000), (.idAa64Dfr0, 0x8), (.idAa64Isar1, 0x10100001),
      (.idAa64Mmfr2, 0x11), (.idAa64Pfr0, 0x10000000)]
  -- Without a double lock, floating point and SIMD, which zeros would tell, nothing of v8.0 is left
  | _ => [(.idAa64Dfr0, 0x1000000000), (.idAa64Pfr0, 0xFF0000)]

/-- Each core given for a level that can be reached is found at that level. -/
theorem ofAProfile_coreAt : ∀ l ∈ [unknown, armV8_0A, armV8_1A, armV8_2A, armV8_3A],
    ofAProfile (LevelTally.ofFindings (Finding.all (core (coreAt l)))) = l := by
  decide +kernel

/-- With an architecture code that defers to the AArch64 registers, the levels at which some core is found are exactly
v8.0 to v8.3, besides the unknown one: v8.4 and all levels above it are dead. -/
theorem ofArm_eq_iff (l : FeatureLevel) :
    (∃ regs : ArmRegisters, (∃ w, regs .midr = some w ∧ Bits.field w 19 16 = 0xF) ∧ regs.hasAarch64View = true ∧
        ofArm regs (LevelTally.ofFindings (Finding.all regs)) = l) ↔
      l ∈ [unknown, armV8_0A, armV8_1A, armV8_2A, armV8_3A] := by
  constructor
  · rintro ⟨regs, ⟨w, hw, hcode⟩, hview, rfl⟩
    rw [ofArm_eq_ofAProfile hview]
    · exact ofAProfile_mem_upToV8_3 regs
    · intro w' hw'
      obtain rfl : w = w' := Option.some.inj (hw.symm.trans hw')
      exact hcode
  · intro hl
    refine ⟨core (coreAt l), ⟨0xF0000, rfl, by decide⟩, hasAarch64View_core _, ?_⟩
    rw [ofArm_eq_ofAProfile (hasAarch64View_core _) (code_core _)]
    exact ofAProfile_coreAt l hl

end FeatureLevel
end CpuIdent
