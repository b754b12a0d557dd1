import CpuIdent.Arm.Finding

/-!
# ARM architecture levels

A level is reached when every feature that it requires is present. Cores with the AArch64 registers climb the levels of the
A-profile one by one; older ones are told by the AArch32 registers, and the oldest by the architecture code alone.
-/

namespace CpuIdent

/-- For each level, a number of features that are optional from it, and of features that are mandatory from it. -/
structure LevelCounts where
  optional : FeatureLevel → Nat
  mandatory : FeatureLevel → Nat

/-- The counts of features listed at each level: of those present, and of all. -/
structure LevelTally where
  present : LevelCounts
  total : LevelCounts

namespace LevelTally

/-- The counts of a list of findings. -/
def ofFindings (found : List Finding) : LevelTally where
  present := {
    optional := fun l => found.countP fun f => f.optionalFrom == some l && f.present
    mandatory := fun l => found.countP fun f => f.mandatoryFrom == some l && f.present }
  total := {
    optional := fun l => found.countP fun f => f.optionalFrom == some l
    mandatory := fun l => found.countP fun f => f.mandatoryFrom == some l }

/-- Whether all features mandatory from a level are present, and the level lists a mandatory feature or a present optional one. -/
def passes (t : LevelTally) (l : FeatureLevel) : Bool :=
  t.present.mandatory l == t.total.mandatory l && (t.total.mandatory l > 0 || t.present.optional l > 0)

/-- Whether some feature that a level lists is present. -/
def hasEvidence (t : LevelTally) (l : FeatureLevel) : Bool := t.present.optional l > 0 || t.present.mandatory l > 0

end LevelTally

namespace FeatureLevel

/-- The levels that every climb begins with. -/
def climbStart : List FeatureLevel := [armV8_0A, armV8_1A, armV8_2A, armV8_3A, armV8_4A, armV8_5A]

/-- The levels of the A-profile to climb, in order: after v8.5 those of v9 if anything is listed at v9.0, else the rest of v8. -/
def climb (t : LevelTally) : List FeatureLevel :=
  climbStart ++
    if t.hasEvidence armV9_0A then [armV9_0A, armV9_1A, armV9_2A, armV9_3A, armV9_4A]
    else [armV8_6A, armV8_7A, armV8_8A, armV8_9A]

/-- The last level of the A-profile reached before the first that does not pass. -/
def ofAProfile (t : LevelTally) : FeatureLevel := (((climb t).takeWhile t.passes).getLast?).getD unknown

/-- The AArch32 registers that tell a profile; if none is known, neither is the level. -/
def profileRegisters : List ArmRegister := [.idPfr0, .idMmfr0, .idDfr0, .idIsar3, .idIsar5]

/-- The level of a core without the A32 instruction set, that is, of the M-profile. -/
def ofMProfile (regs : ArmRegisters) : FeatureLevel :=
  let thumb := Finding.fieldOrZero regs .idPfr0 7 4
  let memory := Finding.fieldOrZero regs .idMmfr0 7 4
  if thumb < 3 then armV6M
  else if memory ≥ 4 then
    if Finding.fieldOrZero regs .idDfr0 23 20 ≥ 2 then armV8_1M else armV8_0M
  else if Finding.fieldOrZero regs .idIsar3 7 4 ≥ 3 then armV7EM
  else armV7M

/-- The level of a core known only by its AArch32 registers. -/
def ofAarch32 (regs : ArmRegisters) : FeatureLevel :=
  if profileRegisters.all fun r => (regs r).isNone then unknown
  else if Finding.fieldOrZero regs .idPfr0 3 0 = 0 then ofMProfile regs
  else
    let paged := Finding.fieldOrZero regs .idMmfr0 3 0
    let protection := Finding.fieldOrZero regs .idMmfr0 7 4
    if paged = 0 then
      if protection ≥ 4 then armV8_0R else if protection ≥ 3 then armV7R else unknown
    else if paged ≤ 2 then armV6
    -- The fields of the AES, SHA and CRC instructions, which came with ARMv8
    else if Finding.fieldOrZero regs .idIsar5 19 4 = 0 then armV7A
    else armV8_0A

/-- The architecture codes that stand for a level. The code 0xF defers to the other registers. -/
def ofArchitectureCode (code : UInt64) : FeatureLevel :=
  if code = 0x1 then armV4
  else if code = 0x2 then armV4T
  else if code = 0x3 then armV5
  else if code = 0x4 then armV5T
  else if code = 0x5 then armV5TE
  else if code = 0x6 then armV5TEJ
  else if code = 0x7 then armV6
  else if code = 0xC then armV6M
  else unknown

/-- The level of an ARM core. -/
def ofArm (regs : ArmRegisters) (t : LevelTally) : FeatureLevel :=
  match (regs .midr).map fun w => Bits.field w 19 16 with
  | some code =>
    if code = 0xF then ofRegisters regs t else ofArchitectureCode code
  | none => ofRegisters regs t
where
  /-- The level by the registers other than the main one. -/
  ofRegisters (regs : ArmRegisters) (t : LevelTally) : FeatureLevel :=
    if regs.hasAarch64View then ofAProfile t else ofAarch32 regs

end FeatureLevel
end CpuIdent
