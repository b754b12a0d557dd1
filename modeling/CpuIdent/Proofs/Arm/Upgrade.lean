import CpuIdent.Proofs.Arm.Grounds
import CpuIdent.Proofs.Bits

/-!
# Later versions of a field

A larger value of a field stands for a later version of what it tells, and most rules look for the later versions too. A
level that can be reached stands on grounds (`Listing.grounds`), lists of rules of which one must hold, and a ground that
looks for the later versions stays when a field is upgraded (`FeatureRule.exists_holds_of_upgrade`). Two grounds do not
look for them: v8.2 requires one version of the debug architecture exactly, and the first version of the performance
monitors is evidence of v8.0, which the later ones are not. So an upgrade lowers the level exactly of the cores that
stand on one of these (`ArmRegisters.level_le_iff_of_upgrade`).
-/

namespace CpuIdent

/-! ## Fields of registers -/

/-- A range of bits of a register. -/
@[ext] structure RegisterField where
  register : ArmRegister
  high : Nat
  low : Nat
  deriving DecidableEq, Repr

namespace FieldProbe

/-- The field that a probe looks at. -/
def field (p : FieldProbe) : RegisterField := ⟨p.register, p.high, p.low⟩

/-- The probes that look for a larger value of the same field. -/
def later (p : FieldProbe) : List FieldProbe :=
  (FeatureRule.all.flatMap FeatureRule.probes).filter fun q => q.field = p.field ∧ p.value < q.value

/-- The later probes of a probe: of the table, of the same field and for a higher value. -/
theorem mem_later {p q : FieldProbe} :
    q ∈ p.later ↔ (∃ r ∈ FeatureRule.all, q ∈ r.probes) ∧ q.field = p.field ∧ p.value < q.value := by
  simp [later]

/-- Where the register is known, a probe holds just if the field has its value. -/
theorem holds_iff_of_known {regs : ArmRegisters} {p : FieldProbe} {w : UInt64} (h : regs p.register = some w) :
    p.holds regs = true ↔ Bits.field w p.high p.low = p.value := by
  simp [holds_iff, h]

end FieldProbe

namespace RegisterField

/-- The field with the version of the debug architecture. -/
def debug : RegisterField := ⟨.idAa64Dfr0, 3, 0⟩

/-- The field with the version of the performance monitors. -/
def monitors : RegisterField := ⟨.idAa64Dfr0, 11, 8⟩

/-- Some rule looks for the value in the field. -/
def Probed (a : RegisterField) (v : UInt64) : Prop := ∃ r ∈ FeatureRule.all, ∃ p ∈ r.probes, p.field = a ∧ p.value = v

variable {a b : RegisterField} {v v' : UInt64}

/-- The value of a probe of the table is probed in its field. -/
theorem probed_field {r : FeatureRule} (hr : r ∈ FeatureRule.all) {p : FieldProbe} (hp : p ∈ r.probes) :
    p.field.Probed p.value := ⟨r, hr, p, hp, rfl, rfl⟩

/-- The fields that rules look at are those of AArch64 registers. -/
theorem Probed.bounds (h : a.Probed v) : a.register.isAarch64Only = true ∧ a.low ≤ a.high ∧ a.high < 64 := by
  have hall : ∀ r ∈ FeatureRule.all, ∀ p ∈ r.probes,
      p.field.register.isAarch64Only = true ∧ p.field.low ≤ p.field.high ∧ p.field.high < 64 := by decide +kernel
  obtain ⟨r, hr, p, hp, rfl, -⟩ := h
  exact hall r hr p hp

/-- The fields are four bits wide and aligned, but for some of the register of the scalable matrix extension. -/
theorem Probed.aligned (h : a.Probed v) (hr : a.register ≠ .idAa64Smfr0) : a.low % 4 = 0 ∧ a.high = a.low + 3 := by
  have hall : ∀ r ∈ FeatureRule.all, ∀ p ∈ r.probes, p.field.register ≠ .idAa64Smfr0 →
      p.field.low % 4 = 0 ∧ p.field.high = p.field.low + 3 := by decide +kernel
  obtain ⟨r, hrule, p, hp, rfl, -⟩ := h
  exact hall r hrule p hp hr

/-- Different fields of one register have no bit in common. -/
theorem Probed.outside (ha : a.Probed v) (hb : b.Probed v') (hr : b.register = a.register) (hne : b ≠ a)
    (hreg : a.register ≠ .idAa64Smfr0) {i : Nat} (hlow : b.low ≤ i) (hhigh : i ≤ b.high) : i < a.low ∨ a.high < i := by
  obtain ⟨ha4, hawidth⟩ := ha.aligned hreg
  obtain ⟨hb4, hbwidth⟩ := hb.aligned (hr ▸ hreg)
  have hlows : b.low ≠ a.low := by
    intro heq
    exact hne (RegisterField.ext hr (by omega) heq)
  omega

end RegisterField

/-! ## Changing a field -/

/-- Two register files that differ in one field of a known register, which has one value before and another one after. -/
structure ArmRegisters.Change (before after : ArmRegisters) (a : RegisterField) (v v' : UInt64) : Prop where
  others : ∀ r, r ≠ a.register → after r = before r
  word : ∃ w w', before a.register = some w ∧ after a.register = some w' ∧
    Bits.field w a.high a.low = v ∧ Bits.field w' a.high a.low = v' ∧
    ∀ i, i < a.low ∨ a.high < i → w'.toNat.testBit i = w.toNat.testBit i

section

variable {before after : ArmRegisters} {a : RegisterField} {v v' : UInt64} {p : FieldProbe}

namespace ArmRegisters.Change

/-- Before a change, the probes of its field hold for the old value. -/
theorem holds_before_iff (h : before.Change after a v v') (hp : p.field = a) : p.holds before = true ↔ p.value = v := by
  subst hp
  obtain ⟨w, -, hw, -, hv, -⟩ := h.word
  exact (FieldProbe.holds_iff_of_known hw).trans ⟨fun heq => heq.symm.trans hv, fun heq => hv.trans heq.symm⟩

/-- After a change, the probes of its field hold for the new value. -/
theorem holds_after_iff (h : before.Change after a v v') (hp : p.field = a) : p.holds after = true ↔ p.value = v' := by
  subst hp
  obtain ⟨-, w', -, hw', -, hv', -⟩ := h.word
  exact (FieldProbe.holds_iff_of_known hw').trans ⟨fun heq => heq.symm.trans hv', fun heq => hv'.trans heq.symm⟩

/-- A probe of another field finds what it found. -/
theorem holds_other_iff (h : before.Change after a v v') (ha : a.Probed v) (hp : p.field.Probed p.value)
    (hreg : p.register ≠ .idAa64Smfr0) (hne : p.field ≠ a) : p.holds after = true ↔ p.holds before = true := by
  by_cases hr : p.register = a.register
  · obtain ⟨w, w', hw, hw', -, -, hbits⟩ := h.word
    have hsame : Bits.field w' p.high p.low = Bits.field w p.high p.low :=
      Bits.field_congr hp.bounds.2.1 hp.bounds.2.2 fun i hlow hhigh =>
        hbits i (ha.outside hp hr hne (hr ▸ hreg) hlow hhigh)
    rw [FieldProbe.holds_iff_of_known (hr ▸ hw'), FieldProbe.holds_iff_of_known (hr ▸ hw), hsame]
  · rw [FieldProbe.holds, FieldProbe.holds, h.others p.register hr]

/-- The field is not of the main register. -/
theorem midr_eq (h : before.Change after a v v') (ha : a.Probed v) : after .midr = before .midr := by
  refine h.others .midr ?_
  intro heq
  have haarch64 := ha.bounds.1
  rw [← heq] at haarch64
  cases haarch64

end ArmRegisters.Change

/-! ## Later versions -/

namespace Listing

/-- Some of the rules looks for each of the later versions that follow the one that the probe looks for. -/
def Covered (rules : List FeatureRule) (p : FieldProbe) : Prop := ∀ q ∈ p.later, ∃ r ∈ rules, q ∈ r.probes

instance (rules : List FeatureRule) (p : FieldProbe) : Decidable (Covered rules p) :=
  inferInstanceAs (Decidable (∀ q ∈ p.later, ∃ r ∈ rules, q ∈ r.probes))

/-- The field whose later versions a ground of a level does not look for. -/
def gap : FeatureLevel → Option RegisterField
  | .armV8_0A => some .monitors
  | .armV8_2A => some .debug
  | _ => none

/-- There are two gaps: the debug field at v8.2, and the field on monitors at v8.0. -/
theorem eq_of_gap {l : FeatureLevel} {a : RegisterField} (h : gap l = some a) :
    l = .armV8_2A ∧ a = .debug ∨ l = .armV8_0A ∧ a = .monitors := by
  unfold gap at h
  split at h <;> simp_all

/-- The grounds of the levels look for the later versions of their fields, but for those of two fields. -/
theorem covered_of_ground : ∀ l ∈ reachable, ∀ rules ∈ grounds l, ∀ r ∈ rules, ∀ p ∈ r.probes,
    p.register ≠ .idAa64Smfr0 ∧ (gap l = some p.field ∨ Covered rules p) := by
  decide +kernel

end Listing

/-! ## What an upgrade keeps -/

/-- A ground stays when a field is upgraded whose later versions its rules look for. -/
theorem FeatureRule.exists_holds_of_upgrade {l : FeatureLevel} (hl : l ∈ Listing.reachable) {rules : List FeatureRule}
    (hrules : rules ∈ Listing.grounds l) (h : before.Change after a v v') (hv : a.Probed v) (hv' : a.Probed v') (hlt : v < v')
    (hgap : Listing.gap l ≠ some a) (hbefore : ∃ r ∈ rules, r.holds before = true) : ∃ r ∈ rules, r.holds after = true := by
  obtain ⟨r, hr, hholds⟩ := hbefore
  obtain ⟨p, hp, hpholds⟩ := holds_iff.1 hholds
  obtain ⟨hreg, hcovered⟩ := Listing.covered_of_ground l hl rules hrules r hr p hp
  by_cases hfield : p.field = a
  · subst hfield
    obtain ⟨r', hr', q, hq, hqfield, rfl⟩ := hv'
    obtain rfl : p.value = v := (h.holds_before_iff rfl).1 hpholds
    have hlater : q ∈ p.later := FieldProbe.mem_later.2 ⟨⟨r', hr', hq⟩, hqfield, hlt⟩
    obtain ⟨r'', hr'', hq''⟩ := hcovered.resolve_left hgap q hlater
    exact ⟨r'', hr'', holds_iff.2 ⟨q, hq'', (h.holds_after_iff hqfield).2 rfl⟩⟩
  · have hprobed := RegisterField.probed_field (Listing.mem_all_of_mem_grounds hrules hr) hp
    exact ⟨r, hr, holds_iff.2 ⟨p, hp, (h.holds_other_iff hv hprobed hreg hfield).2 hpholds⟩⟩

/-- A level stays justified when a field is upgraded whose later versions its grounds look for. -/
theorem Listing.justified_of_upgrade {l : FeatureLevel} (hl : l ∈ reachable) (h : before.Change after a v v') (hv : a.Probed v)
    (hv' : a.Probed v') (hlt : v < v') (hgap : gap l ≠ some a)
    (hbefore : Justified (Finding.flags (Finding.all before)) l) : Justified (Finding.flags (Finding.all after)) l := by
  rw [justified_iff_grounds _ hl] at hbefore ⊢
  intro rules hrules
  exact FeatureRule.exists_holds_of_upgrade hl hrules h hv hv' hlt hgap (hbefore rules hrules)

end

/-! ## Levels -/

namespace ArmRegisters.Climbs

variable {regs : ArmRegisters}

/-- A core climbs if an AArch64 register of it is known and its main identification register, if known, has the code 0xF. -/
theorem of_known {r : ArmRegister} {w : UInt64} (hr : r.isAarch64Only = true) (hw : regs r = some w)
    (hcode : ∀ w, regs .midr = some w → Bits.field w 19 16 = 0xF) : regs.Climbs where
  view := List.any_eq_true.2 ⟨r, ArmRegister.mem_all r, by rw [hr, hw]; rfl⟩
  code := hcode

/-- The level is not lower if each level that can be reached and was reached is still justified. -/
theorem level_le_of_justified {before after : ArmRegisters} (hb : before.Climbs) (ha : after.Climbs)
    (hkept : ∀ m ∈ Listing.reachable, m ≤ before.level → Listing.Justified (Finding.flags (Finding.all after)) m) :
    before.level ≤ after.level := by
  rcases List.mem_cons.1 hb.level_mem with hunknown | hreached
  · rw [hunknown]
    exact Nat.zero_le _
  · exact (ha.le_level_iff hreached).2 hkept

end ArmRegisters.Climbs

section

variable {before after : ArmRegisters} {a : RegisterField} {v v' : UInt64}

namespace ArmRegisters

/-- Both files know an AArch64 register, and the main register is the same. -/
theorem Change.climbs (h : before.Change after a v v') (hv : a.Probed v)
    (hcode : ∀ w, before .midr = some w → Bits.field w 19 16 = 0xF) : before.Climbs ∧ after.Climbs := by
  obtain ⟨w, w', hw, hw', -⟩ := h.word
  refine ⟨.of_known hv.bounds.1 hw hcode, .of_known hv.bounds.1 hw' ?_⟩
  rw [h.midr_eq hv]
  exact hcode

/-- The core rests on a version of the field that the later ones do not stand in for: on that of the debug architecture
from v8.2 on, or on the first of the performance monitors if nothing else is evidence of v8.0. -/
def RestsOn (regs : ArmRegisters) (a : RegisterField) : Prop :=
  a = .debug ∧ .armV8_2A ≤ regs.level ∨
  a = .monitors ∧ .armV8_0A ≤ regs.level ∧
    ∀ f ∈ Listing.optionalAt .armV8_0A, f ∈ Finding.flags (Finding.all regs) → f = .pmuV3

end ArmRegisters

/-- A rule that looks for one value of the field does not hold of two. -/
theorem FeatureRule.not_holds_both (h : before.Change after a v v') (hlt : v < v') {r : FeatureRule} {p : FieldProbe}
    (hr : r.probes = [p]) (hp : p.field = a) : ¬ (r.holds before = true ∧ r.holds after = true) := by
  rw [holds_singleton hr, holds_singleton hr, h.holds_before_iff hp, h.holds_after_iff hp]
  rintro ⟨rfl, rfl⟩
  exact UInt64.lt_irrefl _ hlt

/-- Evidence of v8.0 other than the first version of the performance monitors does not depend on their field. -/
theorem Finding.mem_flags_iff_of_monitors (h : before.Change after .monitors v v') (hv : RegisterField.monitors.Probed v)
    {f : ArmFeature} (hf : f ∈ Listing.optionalAt .armV8_0A) (hne : f ≠ .pmuV3) :
    f ∈ flags (all after) ↔ f ∈ flags (all before) := by
  have hother : ∀ r ∈ FeatureRule.all, r.optionalFrom = some .armV8_0A → r.feature ≠ .pmuV3 →
      ∀ p ∈ r.probes, p.register ≠ .idAa64Smfr0 ∧ p.field ≠ .monitors := by decide +kernel
  obtain ⟨r, hr, ho, rfl⟩ := Listing.mem_optionalAt_v8_0_iff.1 hf
  rw [mem_flags_iff_holds after hr, mem_flags_iff_holds before hr, FeatureRule.holds_iff, FeatureRule.holds_iff]
  refine exists_congr fun p => and_congr_right fun hp => ?_
  obtain ⟨hreg, hfield⟩ := hother r hr ho hne p hp
  exact h.holds_other_iff hv (RegisterField.probed_field hr hp) hreg hfield

/-- The version of the debug architecture that v8.2 requires is lost with an upgrade. -/
theorem FeatureLevel.not_justified_v8_2_of_upgrade (h : before.Change after .debug v v') (hlt : v < v')
    (hbefore : Listing.Justified (Finding.flags (Finding.all before)) armV8_2A) :
    ¬ Listing.Justified (Finding.flags (Finding.all after)) armV8_2A := by
  intro hafter
  have hrule : debugV8p2 ∈ FeatureRule.all := by decide +kernel
  exact FeatureRule.not_holds_both h hlt rfl rfl ⟨holds_of_justified hrule rfl hbefore, holds_of_justified hrule rfl hafter⟩

/-- The rule of the first version of the performance monitors. -/
def FeatureLevel.pmuV3 : FeatureRule := ⟨.pmuV3, FeatureRule.anyOf .idAa64Dfr0 11 8 [1], some .armV8_0A, none⟩

/-- Where the first version of the performance monitors is all the evidence of v8.0, none is left after an upgrade. -/
theorem FeatureLevel.not_justified_v8_0_of_upgrade (h : before.Change after .monitors v v')
    (hv : RegisterField.monitors.Probed v) (hlt : v < v')
    (hbefore : Listing.Justified (Finding.flags (Finding.all before)) armV8_0A)
    (honly : ∀ f ∈ Listing.optionalAt armV8_0A, f ∈ Finding.flags (Finding.all before) → f = .pmuV3) :
    ¬ Listing.Justified (Finding.flags (Finding.all after)) armV8_0A := by
  have hrule : pmuV3 ∈ FeatureRule.all := by decide +kernel
  rw [Listing.justified_v8_0_iff] at hbefore ⊢
  obtain ⟨f, hf, hflag⟩ := hbefore
  obtain rfl := honly f hf hflag
  rintro ⟨g, hg, hgflag⟩
  by_cases hne : g = .pmuV3
  · subst hne
    exact FeatureRule.not_holds_both h hlt rfl rfl
      ⟨(Finding.mem_flags_iff_holds before hrule).1 hflag, (Finding.mem_flags_iff_holds after hrule).1 hgflag⟩
  · exact hne (honly g hg ((Finding.mem_flags_iff_of_monitors h hv hg hne).1 hgflag))

/-- A field that is changed to a later version of what it tells lowers the level exactly of the cores that rest on the
version that it had: those at v8.2 or above by their debug architecture, and those at v8.0 by their performance monitors
alone. -/
theorem ArmRegisters.level_le_iff_of_upgrade (hcode : ∀ w, before .midr = some w → Bits.field w 19 16 = 0xF)
    (h : before.Change after a v v') (hv : a.Probed v) (hv' : a.Probed v') (hlt : v < v') :
    before.level ≤ after.level ↔ ¬ before.RestsOn a := by
  obtain ⟨hb, ha⟩ := h.climbs hv hcode
  constructor
  · rintro hle (⟨rfl, hreached⟩ | ⟨rfl, hreached, honly⟩)
    · have hm : FeatureLevel.armV8_2A ∈ Listing.reachable := by decide
      have hbefore := hb.justified_of_le hm hreached
      have hafter := ha.justified_of_le hm (Nat.le_trans hreached hle)
      exact FeatureLevel.not_justified_v8_2_of_upgrade h hlt hbefore hafter
    · have hm : FeatureLevel.armV8_0A ∈ Listing.reachable := by decide
      have hbefore := hb.justified_of_le hm hreached
      have hafter := ha.justified_of_le hm (Nat.le_trans hreached hle)
      exact FeatureLevel.not_justified_v8_0_of_upgrade h hv hlt hbefore honly hafter
  · intro hrests
    refine hb.level_le_of_justified ha fun m hm hle => ?_
    by_cases hgap : Listing.gap m = some a
    · rcases Listing.eq_of_gap hgap with ⟨rfl, rfl⟩ | ⟨rfl, rfl⟩
      · exact absurd (Or.inl ⟨rfl, hle⟩) hrests
      · by_contra hlost
        refine hrests (Or.inr ⟨rfl, hle, fun f hf hflag => ?_⟩)
        by_contra hne
        exact hlost ((Listing.justified_v8_0_iff after).2 ⟨f, hf, (Finding.mem_flags_iff_of_monitors h hv hf hne).2 hflag⟩)
    · exact Listing.justified_of_upgrade hm h hv hv' hlt hgap (hb.justified_of_le hm hle)

end

/-! ## A debug architecture that is upgraded -/

namespace ArmRegisters

/-- A core of v8.2, with version 8 of the debug architecture. -/
def debugV8 : ArmRegisters := FeatureLevel.core (FeatureLevel.coreAt .armV8_2A)

/-- The same core with version 9 of the debug architecture. -/
def debugV9 : ArmRegisters := fun r => if r = .idAa64Dfr0 then some 9 else debugV8 r

/-- The two examples differ in the debug field alone. -/
theorem change_debug : debugV8.Change debugV9 .debug 8 9 where
  others := fun _ hr => if_neg hr
  word := by
    refine ⟨8, 9, rfl, rfl, by decide, by decide, fun i hi => ?_⟩
    have hpow : 2 ^ 4 ≤ 2 ^ i := Nat.pow_le_pow_right (by decide) (hi.resolve_left (Nat.not_lt_zero i))
    rw [Nat.testBit_lt_two_pow (Nat.lt_of_lt_of_le (by decide) hpow),
      Nat.testBit_lt_two_pow (Nat.lt_of_lt_of_le (by decide) hpow)]

theorem probed_debug_8 : RegisterField.debug.Probed 8 :=
  ⟨FeatureLevel.debugV8p2, by decide +kernel, ⟨.idAa64Dfr0, 3, 0, 8⟩, List.mem_cons_self, rfl, rfl⟩

theorem probed_debug_9 : RegisterField.debug.Probed 9 :=
  ⟨FeatureLevel.debugV8p4, by decide +kernel, ⟨.idAa64Dfr0, 3, 0, 9⟩, List.mem_cons_self, rfl, rfl⟩

/-- The first example reaches v8.2. -/
theorem level_debugV8 : debugV8.level = .armV8_2A := by
  rw [level, debugV8, FeatureLevel.ofArm_eq_ofAProfile (FeatureLevel.hasAarch64View_core _) (FeatureLevel.code_core _)]
  exact FeatureLevel.ofAProfile_coreAt .armV8_2A (by decide)

theorem level_debugV9 : debugV9.level = .armV8_1A := by
  decide +kernel

/-- The core is no longer at v8.2 with the next version of the debug architecture. -/
theorem level_le_iff_of_upgrade_debug : debugV8.Change debugV9 .debug 8 9 ∧ debugV8.RestsOn .debug ∧
    ¬ debugV8.level ≤ debugV9.level := by
  have hrests : debugV8.RestsOn .debug := Or.inl ⟨rfl, by rw [level_debugV8]; decide⟩
  refine ⟨change_debug, hrests, fun hle => ?_⟩
  have hiff := level_le_iff_of_upgrade (FeatureLevel.code_core _) change_debug probed_debug_8 probed_debug_9 (by decide)
  exact hiff.1 hle hrests

/-- Not every upgrade of a field keeps the level. -/
theorem not_forall_level_le :
    ¬ ∀ (before after : ArmRegisters) (a : RegisterField) (v v' : UInt64),
      (∀ w, before .midr = some w → Bits.field w 19 16 = 0xF) → before.Change after a v v' → a.Probed v → a.Probed v' →
        v < v' → before.level ≤ after.level := by
  intro hall
  have hle := hall debugV8 debugV9 .debug 8 9 (FeatureLevel.code_core _) change_debug probed_debug_8 probed_debug_9 (by decide)
  rw [level_debugV8, level_debugV9] at hle
  exact absurd hle (by decide)

end ArmRegisters
end CpuIdent
