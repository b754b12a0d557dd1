import CpuIdent.Feature.Arm
import CpuIdent.Feature.Level
import CpuIdent.Signature.Basic

/-!
# ARM feature rules

Which values of which register fields tell that an ARM core has a feature, and from which architecture levels on the feature is
allowed and required. A field of an unknown register tells nothing, not even what its value zero would tell.
-/

namespace CpuIdent

/-- A value that a register field may have. -/
structure FieldProbe where
  register : ArmRegister
  high : Nat
  low : Nat
  value : UInt64
  deriving DecidableEq, Repr

/-- Whether the register is known and its field has the value. -/
def FieldProbe.holds (p : FieldProbe) (regs : ArmRegisters) : Bool :=
  (regs p.register).any fun v => Bits.field v p.high p.low == p.value

/-- How a feature is told from the registers, and the levels that list it. -/
structure FeatureRule where
  feature : ArmFeature
  /-- Field values of which any one tells the feature. -/
  probes : List FieldProbe
  /-- The level from which the feature is optional. -/
  optionalFrom : Option FeatureLevel
  /-- The level from which the feature is mandatory. -/
  mandatoryFrom : Option FeatureLevel
  deriving DecidableEq, Repr

namespace FeatureRule

/-- Whether the registers tell the feature. -/
def holds (r : FeatureRule) (regs : ArmRegisters) : Bool := r.probes.any fun p => p.holds regs

/-- The probes of one field for any of these values. -/
def anyOf (register : ArmRegister) (high low : Nat) (values : List UInt64) : List FieldProbe :=
  values.map (FieldProbe.mk register high low)

/-- The probes for a version of pointer authentication, in the fields of its three algorithms. -/
def authentication (value : UInt64) : List FieldProbe :=
  [⟨.idAa64Isar1, 7, 4, value⟩, ⟨.idAa64Isar1, 11, 8, value⟩, ⟨.idAa64Isar2, 15, 12, value⟩]

/-- The rules of the AArch64 registers. -/
def all : List FeatureRule := [
  -- ID_AA64DFR0
  ⟨.trbeExt, anyOf .idAa64Dfr0 59 56 [1], some .armV9_3A, none⟩,
  ⟨.brbe, anyOf .idAa64Dfr0 55 52 [1], some .armV9_1A, none⟩,
  ⟨.brbeV1p1, anyOf .idAa64Dfr0 55 52 [2], some .armV9_2A, none⟩,
  ⟨.mtpmu, anyOf .idAa64Dfr0 51 48 [1], some .armV8_5A, none⟩,
  ⟨.trbe, anyOf .idAa64Dfr0 47 44 [1], some .armV9_0A, none⟩,
  ⟨.trf, anyOf .idAa64Dfr0 43 40 [1], some .armV8_3A, none⟩,
  ⟨.doubleLock, anyOf .idAa64Dfr0 39 36 [0], some .armV8_0A, none⟩,
  ⟨.spe, anyOf .idAa64Dfr0 35 32 [1], some .armV8_1A, none⟩,
  ⟨.speV1p1, anyOf .idAa64Dfr0 35 32 [2], some .armV8_2A, none⟩,
  ⟨.speV1p2, anyOf .idAa64Dfr0 35 32 [3], some .armV8_6A, none⟩,
  ⟨.speV1p3, anyOf .idAa64Dfr0 35 32 [4], some .armV8_7A, none⟩,
  ⟨.speV1p4, anyOf .idAa64Dfr0 35 32 [5], some .armV8_8A, none⟩,
  ⟨.sebep, anyOf .idAa64Dfr0 27 24 [1], some .armV9_3A, none⟩,
  ⟨.pmuV3Ss, anyOf .idAa64Dfr0 19 16 [1], some .armV8_8A, none⟩,
  ⟨.pmuV3, anyOf .idAa64Dfr0 11 8 [1], some .armV8_0A, none⟩,
  ⟨.pmuV3p1, anyOf .idAa64Dfr0 11 8 [4], some .armV8_1A, none⟩,
  ⟨.pmuV3p4, anyOf .idAa64Dfr0 11 8 [5], some .armV8_3A, none⟩,
  ⟨.pmuV3p5, anyOf .idAa64Dfr0 11 8 [6], some .armV8_4A, none⟩,
  ⟨.pmuV3p7, anyOf .idAa64Dfr0 11 8 [7], some .armV8_6A, none⟩,
  ⟨.pmuV3p8, anyOf .idAa64Dfr0 11 8 [8], some .armV8_7A, none⟩,
  ⟨.pmuV3p9, anyOf .idAa64Dfr0 11 8 [9], some .armV8_8A, none⟩,
  ⟨.debugV8p2, anyOf .idAa64Dfr0 3 0 [8], some .armV8_1A, some .armV8_2A⟩,
  ⟨.debugV8p4, anyOf .idAa64Dfr0 3 0 [9], some .armV8_3A, some .armV8_4A⟩,
  ⟨.debugV8p8, anyOf .idAa64Dfr0 3 0 [0xa], some .armV8_7A, some .armV8_8A⟩,
  ⟨.debugV8p9, anyOf .idAa64Dfr0 3 0 [0xb], some .armV8_8A, some .armV8_9A⟩,
  -- ID_AA64DFR1
  ⟨.speDpfzs, anyOf .idAa64Dfr1 55 52 [1], some .armV8_6A, none⟩,
  ⟨.ebep, anyOf .idAa64Dfr1 51 48 [1], some .armV9_3A, none⟩,
  ⟨.ite, anyOf .idAa64Dfr1 47 44 [1], some .armV9_3A, none⟩,
  ⟨.able, anyOf .idAa64Dfr1 43 40 [1], some .armV9_3A, none⟩,
  ⟨.bwe, anyOf .idAa64Dfr1 43 40 [1], some .armV9_3A, none⟩,
  ⟨.pmuV3Icntr, anyOf .idAa64Dfr1 39 36 [1], some .armV8_8A, none⟩,
  ⟨.spmu, anyOf .idAa64Dfr1 35 32 [1], some .armV8_8A, none⟩,
  -- ID_AA64ISAR0
  ⟨.rng, anyOf .idAa64Isar0 63 60 [1], some .armV8_4A, none⟩,
  ⟨.tlbiOs, anyOf .idAa64Isar0 59 56 [1, 2], some .armV8_3A, some .armV8_4A⟩,
  ⟨.tlbiRange, anyOf .idAa64Isar0 59 56 [2], some .armV8_3A, some .armV8_4A⟩,
  ⟨.flagM, anyOf .idAa64Isar0 55 52 [1, 2], some .armV8_1A, some .armV8_4A⟩,
  ⟨.flagM2, anyOf .idAa64Isar0 55 52 [2], some .armV8_4A, none⟩,
  ⟨.fhm, anyOf .idAa64Isar0 51 48 [1], some .armV8_1A, none⟩,
  ⟨.dotProd, anyOf .idAa64Isar0 47 44 [1], some .armV8_1A, none⟩,
  ⟨.sm4, anyOf .idAa64Isar0 43 40 [1], some .armV8_1A, none⟩,
  ⟨.sm3, anyOf .idAa64Isar0 39 36 [1], some .armV8_1A, none⟩,
  ⟨.sha3, anyOf .idAa64Isar0 35 32 [1], some .armV8_1A, none⟩,
  ⟨.rdm, anyOf .idAa64Isar0 31 28 [1], some .armV8_0A, none⟩,
  ⟨.tme, anyOf .idAa64Isar0 27 24 [1], some .armV9_0A, none⟩,
  ⟨.lse, anyOf .idAa64Isar0 23 20 [2, 3], some .armV8_0A, some .armV8_1A⟩,
  ⟨.lse128, anyOf .idAa64Isar0 23 20 [3], some .armV9_3A, none⟩,
  ⟨.crc32, anyOf .idAa64Isar0 19 16 [1], some .armV8_0A, some .armV8_1A⟩,
  ⟨.sha256, anyOf .idAa64Isar0 15 12 [1, 2], some .armV8_0A, none⟩,
  ⟨.sha512, anyOf .idAa64Isar0 15 12 [2], some .armV8_1A, none⟩,
  ⟨.sha1, anyOf .idAa64Isar0 11 8 [1], some .armV8_0A, none⟩,
  ⟨.aes, anyOf .idAa64Isar0 7 4 [1, 2], some .armV8_0A, none⟩,
  ⟨.pmull, anyOf .idAa64Isar0 7 4 [2], some .armV8_0A, none⟩,
  -- ID_AA64ISAR1
  ⟨.ls64, anyOf .idAa64Isar1 63 60 [1, 2, 3], some .armV8_6A, none⟩,
  ⟨.ls64V, anyOf .idAa64Isar1 63 60 [2, 3], some .armV8_6A, none⟩,
  ⟨.ls64AccData, anyOf .idAa64Isar1 63 60 [3], some .armV8_6A, none⟩,
  ⟨.xs, anyOf .idAa64Isar1 59 56 [1], some .armV8_6A, some .armV8_7A⟩,
  ⟨.i8mm, anyOf .idAa64Isar1 55 52 [1] ++ anyOf .idAa64Zfr0 47 44 [1], some .armV8_1A, some .armV8_6A⟩,
  ⟨.dgh, anyOf .idAa64Isar1 51 48 [1], some .armV8_0A, none⟩,
  ⟨.bf16, anyOf .idAa64Isar1 47 44 [1, 2] ++ anyOf .idAa64Zfr0 23 20 [1, 2], some .armV8_2A, some .armV8_6A⟩,
  ⟨.ebf16, anyOf .idAa64Isar1 47 44 [2] ++ anyOf .idAa64Zfr0 23 20 [2], some .armV8_2A, none⟩,
  ⟨.specRes, anyOf .idAa64Isar1 43 40 [1, 2], some .armV8_0A, some .armV8_5A⟩,
  ⟨.specRes2, anyOf .idAa64Isar1 43 40 [2], some .armV8_0A, some .armV8_9A⟩,
  ⟨.sb, anyOf .idAa64Isar1 39 36 [1], some .armV8_0A, some .armV8_5A⟩,
  ⟨.frintTs, anyOf .idAa64Isar1 35 32 [1], some .armV8_4A, none⟩,
  ⟨.pacImp, anyOf .idAa64Isar1 31 28 [1], some .armV8_2A, none⟩,
  ⟨.pacQarma5, anyOf .idAa64Isar1 27 24 [1], some .armV8_2A, none⟩,
  ⟨.lrcpc, anyOf .idAa64Isar1 23 20 [1, 2, 3], some .armV8_2A, some .armV8_3A⟩,
  ⟨.lrcpc2, anyOf .idAa64Isar1 23 20 [2, 3], some .armV8_2A, some .armV8_4A⟩,
  ⟨.lrcpc3, anyOf .idAa64Isar1 23 20 [3], some .armV8_2A, none⟩,
  ⟨.fcma, anyOf .idAa64Isar1 19 16 [1], some .armV8_2A, none⟩,
  ⟨.jscvt, anyOf .idAa64Isar1 15 12 [1], some .armV8_2A, none⟩,
  ⟨.epac, authentication 2, some .armV8_2A, none⟩,
  ⟨.pauth2, authentication 3, some .armV8_2A, some .armV8_6A⟩,
  ⟨.fpac, authentication 4, some .armV8_2A, none⟩,
  ⟨.fpacCombine, authentication 5, some .armV8_2A, none⟩,
  ⟨.dpb, anyOf .idAa64Isar1 3 0 [1, 2], some .armV8_1A, some .armV8_2A⟩,
  ⟨.dpb2, anyOf .idAa64Isar1 3 0 [2], some .armV8_1A, some .armV8_5A⟩,
  -- ID_AA64ISAR2
  ⟨.ats1a, anyOf .idAa64Isar2 63 60 [1], some .armV8_8A, none⟩,
  ⟨.cssc, anyOf .idAa64Isar2 55 52 [1], some .armV8_7A, none⟩,
  ⟨.rprfm, anyOf .idAa64Isar2 51 48 [1], some .armV8_0A, none⟩,
  ⟨.prfmSlc, anyOf .idAa64Isar2 43 40 [1], some .armV8_0A, none⟩,
  ⟨.sysInstr128, anyOf .idAa64Isar2 39 36 [1], some .armV9_3A, none⟩,
  ⟨.sysReg128, anyOf .idAa64Isar2 35 32 [1], some .armV9_3A, none⟩,
  ⟨.clrBhb, anyOf .idAa64Isar2 31 28 [1], some .armV8_0A, some .armV8_9A⟩,
  ⟨.constPacField, anyOf .idAa64Isar2 27 24 [1], some .armV8_2A, none⟩,
  ⟨.hbc, anyOf .idAa64Isar2 23 20 [1], some .armV8_7A, some .armV8_8A⟩,
  ⟨.mops, anyOf .idAa64Isar2 19 16 [1], some .armV8_7A, some .armV8_8A⟩,
  ⟨.pacQarma3, anyOf .idAa64Isar2 11 8 [1], some .armV8_2A, none⟩,
  ⟨.rpres, anyOf .idAa64Isar2 7 4 [1], some .armV8_6A, none⟩,
  ⟨.wfxt, anyOf .idAa64Isar2 3 0 [2], some .armV8_6A, some .armV8_7A⟩,
  -- ID_AA64MMFR0
  ⟨.ecv, anyOf .idAa64Mmfr0 63 60 [1, 2], some .armV8_5A, some .armV8_6A⟩,
  ⟨.fgt, anyOf .idAa64Mmfr0 59 56 [1, 2], some .armV8_5A, none⟩,
  ⟨.fgt2, anyOf .idAa64Mmfr0 59 56 [2], some .armV8_8A, none⟩,
  ⟨.exs, anyOf .idAa64Mmfr0 47 44 [1], some .armV8_4A, none⟩,
  ⟨.lpa2, anyOf .idAa64Mmfr0 31 28 [1] ++ anyOf .idAa64Mmfr0 23 20 [1], some .armV8_6A, none⟩,
  ⟨.mixedEndEl0, anyOf .idAa64Mmfr0 19 16 [1], some .armV8_0A, none⟩,
  ⟨.mixedEnd, anyOf .idAa64Mmfr0 11 8 [1], some .armV8_0A, none⟩,
  ⟨.asid16, anyOf .idAa64Mmfr0 7 4 [2], some .armV8_0A, none⟩,
  ⟨.lpa, anyOf .idAa64Mmfr0 3 0 [6], some .armV8_1A, none⟩,
  -- ID_AA64MMFR1
  ⟨.ecbhb, anyOf .idAa64Mmfr1 63 60 [1], some .armV8_0A, some .armV8_9A⟩,
  ⟨.cmow, anyOf .idAa64Mmfr1 59 56 [1], some .armV8_7A, some .armV8_8A⟩,
  ⟨.tidcp1, anyOf .idAa64Mmfr1 55 52 [1], some .armV8_7A, some .armV8_8A⟩,
  ⟨.afp, anyOf .idAa64Mmfr1 47 44 [1], some .armV8_6A, none⟩,
  ⟨.hcx, anyOf .idAa64Mmfr1 43 40 [1], some .armV8_6A, none⟩,
  ⟨.ets2, anyOf .idAa64Mmfr1 39 36 [2], some .armV8_0A, some .armV8_8A⟩,
  ⟨.twed, anyOf .idAa64Mmfr1 35 32 [1], some .armV8_5A, none⟩,
  ⟨.xnx, anyOf .idAa64Mmfr1 31 28 [1], some .armV8_1A, none⟩,
  ⟨.pan, anyOf .idAa64Mmfr1 23 20 [1, 2, 3], some .armV8_0A, some .armV8_1A⟩,
  ⟨.pan2, anyOf .idAa64Mmfr1 23 20 [2, 3], some .armV8_1A, some .armV8_2A⟩,
  ⟨.pan3, anyOf .idAa64Mmfr1 23 20 [3], some .armV8_0A, some .armV8_7A⟩,
  ⟨.lor, anyOf .idAa64Mmfr1 19 16 [1], some .armV8_0A, some .armV8_1A⟩,
  ⟨.hpds, anyOf .idAa64Mmfr1 15 12 [1, 2], some .armV8_0A, some .armV8_1A⟩,
  ⟨.hpds2, anyOf .idAa64Mmfr1 15 12 [2], some .armV8_1A, none⟩,
  ⟨.vhe, anyOf .idAa64Mmfr1 11 8 [1], some .armV8_0A, none⟩,
  ⟨.vmid16, anyOf .idAa64Mmfr1 7 4 [2], some .armV8_0A, none⟩,
  ⟨.hafDbs, anyOf .idAa64Mmfr1 3 0 [1, 2], some .armV8_1A, none⟩,
  ⟨.haft, anyOf .idAa64Mmfr1 3 0 [3], some .armV8_7A, none⟩,
  -- ID_AA64MMFR2
  ⟨.e0pd, anyOf .idAa64Mmfr2 63 60 [1], some .armV8_4A, some .armV8_5A⟩,
  ⟨.evt, anyOf .idAa64Mmfr2 59 56 [1, 2], some .armV8_2A, none⟩,
  ⟨.bbm, anyOf .idAa64Mmfr2 55 52 [0, 1, 2], some .armV8_3A, some .armV8_4A⟩,
  ⟨.ttl, anyOf .idAa64Mmfr2 51 48 [1], some .armV8_3A, some .armV8_4A⟩,
  ⟨.s2fwb, anyOf .idAa64Mmfr2 43 40 [1], some .armV8_3A, none⟩,
  ⟨.idst, anyOf .idAa64Mmfr2 39 36 [1], some .armV8_3A, some .armV8_4A⟩,
  ⟨.lse2, anyOf .idAa64Mmfr2 35 32 [1], some .armV8_2A, some .armV8_4A⟩,
  ⟨.ttst, anyOf .idAa64Mmfr2 31 28 [1], some .armV8_3A, none⟩,
  ⟨.ccidx, anyOf .idAa64Mmfr2 23 20 [1], some .armV8_2A, none⟩,
  ⟨.lva, anyOf .idAa64Mmfr2 19 16 [1, 2], some .armV8_1A, none⟩,
  ⟨.lva3, anyOf .idAa64Mmfr2 19 16 [2], some .armV9_3A, none⟩,
  ⟨.iesb, anyOf .idAa64Mmfr2 15 12 [1], some .armV8_1A, none⟩,
  ⟨.lsmAoc, anyOf .idAa64Mmfr2 11 8 [1], some .armV8_1A, none⟩,
  ⟨.uao, anyOf .idAa64Mmfr2 7 4 [1], some .armV8_1A, some .armV8_2A⟩,
  ⟨.ttCnp, anyOf .idAa64Mmfr2 3 0 [1], some .armV8_1A, some .armV8_2A⟩,
  -- ID_AA64MMFR3
  ⟨.aderr, anyOf .idAa64Mmfr3 59 56 [2] ++ anyOf .idAa64Mmfr3 55 52 [2], some .armV8_8A, none⟩,
  ⟨.anerr, anyOf .idAa64Mmfr3 47 44 [2] ++ anyOf .idAa64Mmfr3 43 40 [2], some .armV8_8A, none⟩,
  ⟨.d128, anyOf .idAa64Mmfr3 35 32 [1], some .armV9_3A, none⟩,
  ⟨.mec, anyOf .idAa64Mmfr3 31 28 [1], some .armV9_2A, none⟩,
  ⟨.aie, anyOf .idAa64Mmfr3 27 24 [1], some .armV8_8A, none⟩,
  ⟨.s2poe, anyOf .idAa64Mmfr3 23 20 [1], some .armV8_8A, none⟩,
  ⟨.s1poe, anyOf .idAa64Mmfr3 19 16 [1], some .armV8_8A, none⟩,
  ⟨.s2pie, anyOf .idAa64Mmfr3 15 12 [1], some .armV8_8A, none⟩,
  ⟨.s1pie, anyOf .idAa64Mmfr3 11 8 [1], some .armV8_8A, none⟩,
  ⟨.sctlr2, anyOf .idAa64Mmfr3 7 4 [1], some .armV8_0A, some .armV8_9A⟩,
  ⟨.tcr2, anyOf .idAa64Mmfr3 3 0 [1], some .armV8_0A, some .armV8_9A⟩,
  -- ID_AA64PFR0
  ⟨.csv3, anyOf .idAa64Pfr0 63 60 [1], some .armV8_0A, some .armV8_5A⟩,
  ⟨.csv2, anyOf .idAa64Pfr0 59 56 [1, 2, 3], some .armV8_0A, some .armV8_5A⟩,
  ⟨.csv2_2, anyOf .idAa64Pfr0 59 56 [2], some .armV8_0A, none⟩,
  ⟨.csv2_3, anyOf .idAa64Pfr0 59 56 [3], some .armV8_0A, none⟩,
  ⟨.rme, anyOf .idAa64Pfr0 55 52 [1], some .armV9_1A, none⟩,
  ⟨.dit, anyOf .idAa64Pfr0 51 48 [1], some .armV8_3A, some .armV8_4A⟩,
  ⟨.amuV1, anyOf .idAa64Pfr0 47 44 [1, 2], some .armV8_3A, none⟩,
  ⟨.amuV1p1, anyOf .idAa64Pfr0 47 44 [2], some .armV8_5A, none⟩,
  ⟨.sel2, anyOf .idAa64Pfr0 39 36 [1], some .armV8_3A, none⟩,
  ⟨.sve, anyOf .idAa64Pfr0 35 32 [1], some .armV8_2A, none⟩,
  ⟨.ras, anyOf .idAa64Pfr0 31 28 [1, 2, 3], some .armV8_0A, some .armV8_2A⟩,
  ⟨.doubleFault, anyOf .idAa64Pfr0 31 28 [2], some .armV8_4A, none⟩,
  ⟨.rasV1p1, anyOf .idAa64Pfr0 31 28 [2], some .armV8_2A, none⟩,
  ⟨.rasV2, anyOf .idAa64Pfr0 31 28 [3], some .armV8_8A, none⟩,
  ⟨.advSimd, anyOf .idAa64Pfr0 23 20 [0, 1], some .armV8_0A, none⟩,
  ⟨.fp, anyOf .idAa64Pfr0 19 16 [0, 1], some .armV8_0A, none⟩,
  ⟨.fp16, anyOf .idAa64Pfr0 19 16 [1], some .armV8_2A, none⟩,
  -- ID_AA64PFR1
  ⟨.pfar, anyOf .idAa64Pfr1 63 60 [1], some .armV8_8A, none⟩,
  ⟨.doubleFault2, anyOf .idAa64Pfr1 59 56 [1], some .armV8_8A, none⟩,
  ⟨.the, anyOf .idAa64Pfr1 51 48 [1], some .armV8_8A, none⟩,
  ⟨.gcs, anyOf .idAa64Pfr1 47 44 [1], some .armV9_3A, none⟩,
  ⟨.nmi, anyOf .idAa64Pfr1 39 36 [1], some .armV8_7A, some .armV8_8A⟩,
  ⟨.csv2_1p1, anyOf .idAa64Pfr1 35 32 [1], some .armV8_0A, none⟩,
  ⟨.csv2_1p2, anyOf .idAa64Pfr1 35 32 [2], some .armV8_0A, none⟩,
  ⟨.rngTrap, anyOf .idAa64Pfr1 31 28 [1], some .armV8_4A, none⟩,
  ⟨.sme, anyOf .idAa64Pfr1 27 24 [1, 2] ++ anyOf .idAa64Zfr0 3 0 [1], some .armV9_2A, none⟩,
  ⟨.sme2, anyOf .idAa64Pfr1 27 24 [2] ++ anyOf .idAa64Smfr0 59 56 [1], some .armV9_2A, none⟩,
  ⟨.mte, anyOf .idAa64Pfr1 11 8 [1, 2, 3], some .armV8_4A, none⟩,
  ⟨.mte2, anyOf .idAa64Pfr1 11 8 [2, 3], some .armV8_4A, none⟩,
  ⟨.mte3, anyOf .idAa64Pfr1 11 8 [3], some .armV8_5A, none⟩,
  ⟨.mteAsymFault, anyOf .idAa64Pfr1 11 8 [3], some .armV8_7A, none⟩,
  ⟨.ssbs, anyOf .idAa64Pfr1 7 4 [1, 2], some .armV8_0A, none⟩,
  ⟨.ssbs2, anyOf .idAa64Pfr1 7 4 [2], some .armV8_0A, none⟩,
  ⟨.bti, anyOf .idAa64Pfr1 3 0 [1], some .armV8_4A, some .armV8_5A⟩,
  -- ID_AA64PFR2
  ⟨.mteTaggedFar, anyOf .idAa64Pfr2 11 8 [1], some .armV8_7A, none⟩,
  ⟨.mteStoreOnly, anyOf .idAa64Pfr2 7 4 [1], some .armV8_7A, none⟩,
  ⟨.mtePerm, anyOf .idAa64Pfr2 3 0 [1], some .armV8_7A, none⟩,
  -- ID_AA64SMFR0
  ⟨.smeFa64, anyOf .idAa64Smfr0 63 63 [1], some .armV9_2A, none⟩,
  ⟨.sme2p1, anyOf .idAa64Smfr0 59 56 [2] ++ anyOf .idAa64Zfr0 3 0 [2], some .armV9_2A, none⟩,
  ⟨.smeI16i64, anyOf .idAa64Smfr0 55 52 [0xf], some .armV9_2A, none⟩,
  ⟨.smeF64f64, anyOf .idAa64Smfr0 48 48 [1], some .armV9_2A, none⟩,
  ⟨.sveB16b16, anyOf .idAa64Smfr0 43 43 [1] ++ anyOf .idAa64Zfr0 27 24 [1], some .armV9_2A, none⟩,
  ⟨.smeF16f16, anyOf .idAa64Smfr0 42 42 [1], some .armV9_2A, none⟩,
  -- ID_AA64ZFR0
  ⟨.f64mm, anyOf .idAa64Zfr0 59 56 [1], some .armV8_2A, none⟩,
  ⟨.f32mm, anyOf .idAa64Zfr0 55 52 [1], some .armV8_2A, none⟩,
  ⟨.sveSm4, anyOf .idAa64Zfr0 43 40 [1], some .armV9_0A, none⟩,
  ⟨.sveSha3, anyOf .idAa64Zfr0 35 32 [1], some .armV9_0A, none⟩,
  ⟨.sveBitPerm, anyOf .idAa64Zfr0 19 16 [1], some .armV9_0A, none⟩,
  ⟨.sveAes, anyOf .idAa64Zfr0 7 4 [1, 2], some .armV9_0A, none⟩,
  ⟨.svePmull128, anyOf .idAa64Zfr0 7 4 [2], some .armV9_0A, none⟩,
  ⟨.sve2, anyOf .idAa64Zfr0 3 0 [1, 2], some .armV9_0A, none⟩,
  ⟨.sve2p1, anyOf .idAa64Zfr0 3 0 [2], some .armV9_2A, none⟩]

/-- The rule of a feature, if it is told by single fields. -/
def ofFeature? (f : ArmFeature) : Option FeatureRule := all.find? fun r => r.feature == f

end FeatureRule
end CpuIdent
