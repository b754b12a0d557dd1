import CpuIdent.Arm.FeatureRule

/-!
# Findings

Each feature that the registers of an ARM core were asked for, with the answer and the levels that list the feature. The flags are
the features found present. Most findings come from the rules on single fields; a few features are derived from several fields or
from other features.
-/

namespace CpuIdent

/-- The answer for one feature. -/
structure Finding where
  feature : ArmFeature
  optionalFrom : Option FeatureLevel
  mandatoryFrom : Option FeatureLevel
  present : Bool
  deriving DecidableEq, Repr

namespace Finding

/-- The features found present. -/
def flags (found : List Finding) : FeatureSet ArmFeature :=
  found.foldl (fun s f => s.insertIf f.feature f.present) .empty

/-- The findings of the rules on single fields. -/
def ofRules (regs : ArmRegisters) : List Finding :=
  FeatureRule.all.map fun r => ⟨r.feature, r.optionalFrom, r.mandatoryFrom, r.holds regs⟩

/-- Pointer authentication is there with any of its algorithms. -/
def pauth (flags : FeatureSet ArmFeature) : Finding :=
  ⟨.pauth, some .armV8_2A, some .armV8_3A,
    flags.contains .pacImp || flags.contains .pacQarma3 || flags.contains .pacQarma5⟩

/-- A field of a register, zero if the register is unknown. -/
def fieldOrZero (regs : ArmRegisters) (r : ArmRegister) (high low : Nat) : UInt64 :=
  Bits.field ((regs r).getD 0) high low

/-- Memory partitioning, by its major and minor version; version 0.0 stands for its absence and gives no finding. -/
def mpam (regs : ArmRegisters) : List Finding :=
  let major := fieldOrZero regs .idAa64Pfr0 43 40
  let minor := fieldOrZero regs .idAa64Pfr1 19 16
  if major = 0 ∧ minor = 0 then []
  else [
    ⟨.mpam, some .armV8_2A, none, true⟩,
    ⟨.mpamV0p1, some .armV8_5A, none, major = 0 ∧ minor = 1⟩,
    ⟨.mpamV1p1, some .armV8_5A, none, major = 1 ∧ minor = 1⟩]

/-- The extensions of memory tagging that only its second version and later ones have. -/
def mteParts (regs : ArmRegisters) : List Finding :=
  if fieldOrZero regs .idAa64Pfr1 11 8 ≥ 2 then
    let tags : Bool := fieldOrZero regs .idAa64Pfr1 55 52 = 1
    [⟨.mteAsync, some .armV8_5A, none, fieldOrZero regs .idAa64Pfr1 43 40 = 0⟩,
      ⟨.mteCanonicalTags, some .armV8_7A, none, tags⟩,
      ⟨.mteNoAddressTags, some .armV8_7A, none, tags⟩]
  else []

/-- The fourth version of memory tagging is all of these together. -/
def mte4 (flags : FeatureSet ArmFeature) : Finding :=
  ⟨.mte4, some .armV8_7A, none,
    flags.containsAll [.mteCanonicalTags, .mteNoAddressTags, .mteTaggedFar, .mteStoreOnly]⟩

/-- The findings before the fourth version of memory tagging is derived. -/
def parts (regs : ArmRegisters) : List Finding :=
  let rules := ofRules regs
  rules ++ pauth (flags rules) :: (mpam regs ++ mteParts regs)

/-- All findings. -/
def all (regs : ArmRegisters) : List Finding :=
  let found := parts regs
  found ++ [mte4 (flags found)]

end Finding
end CpuIdent
