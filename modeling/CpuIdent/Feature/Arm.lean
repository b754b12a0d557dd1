import CpuIdent.Feature.Basic

/-!
# ARM features

The architecture features of ARM cores, under their `FEAT_` names in lower case.
-/

namespace CpuIdent

/-- A feature that an ARM core may report, by the register that tells; the last ones are derived from several fields. -/
inductive ArmFeature where
  -- ID_AA64DFR0 / ID_AA64DFR1
  | trbeExt | brbe | brbeV1p1 | mtpmu | trbe | trf | doubleLock | spe | speV1p1 | speV1p2 | speV1p3 | speV1p4 | sebep
  | pmuV3Ss | pmuV3 | pmuV3p1 | pmuV3p4 | pmuV3p5 | pmuV3p7 | pmuV3p8 | pmuV3p9 | debugV8p2 | debugV8p4 | debugV8p8
  | debugV8p9 | speDpfzs | ebep | ite | able | bwe | pmuV3Icntr | spmu
  -- ID_AA64ISAR0
  | rng | tlbiOs | tlbiRange | flagM | flagM2 | fhm | dotProd | sm4 | sm3 | sha3 | rdm | tme | lse | lse128 | crc32
  | sha256 | sha512 | sha1 | aes | pmull
  -- ID_AA64ISAR1
  | ls64 | ls64V | ls64AccData | xs | i8mm | dgh | bf16 | ebf16 | specRes | specRes2 | sb | frintTs | pacImp
  | pacQarma5 | lrcpc | lrcpc2 | lrcpc3 | fcma | jscvt | pauth | epac | pauth2 | fpac | fpacCombine | dpb | dpb2
  -- ID_AA64ISAR2
  | ats1a | cssc | rprfm | prfmSlc | sysInstr128 | sysReg128 | clrBhb | constPacField | hbc | mops | pacQarma3 | rpres
  | wfxt
  -- ID_AA64MMFR0
  | ecv | fgt | fgt2 | exs | lpa2 | mixedEndEl0 | mixedEnd | asid16 | lpa
  -- ID_AA64MMFR1
  | ecbhb | cmow | tidcp1 | afp | hcx | ets2 | twed | xnx | pan | pan2 | pan3 | lor | hpds | hpds2 | vhe | vmid16
  | hafDbs | haft
  -- ID_AA64MMFR2
  | e0pd | evt | bbm | ttl | s2fwb | idst | lse2 | ttst | ccidx | lva | lva3 | iesb | lsmAoc | uao | ttCnp
  -- ID_AA64MMFR3
  | aderr | anerr | d128 | mec | aie | s2poe | s1poe | s2pie | s1pie | sctlr2 | tcr2
  -- ID_AA64PFR0
  | csv3 | csv2 | csv2_2 | csv2_3 | rme | dit | amuV1 | amuV1p1 | sel2 | sve | ras | doubleFault | rasV1p1 | rasV2
  | advSimd | fp | fp16
  -- ID_AA64PFR1
  | pfar | doubleFault2 | the | gcs | nmi | csv2_1p1 | csv2_1p2 | rngTrap | sme | sme2 | mte | mte2 | mte3
  | mteAsymFault | ssbs | ssbs2 | bti
  -- ID_AA64PFR2
  | mteTaggedFar | mteStoreOnly | mtePerm
  -- ID_AA64SMFR0
  | smeFa64 | sme2p1 | smeI16i64 | smeF64f64 | sveB16b16 | smeF16f16
  -- ID_AA64ZFR0
  | f64mm | f32mm | sveSm4 | sveSha3 | sveBitPerm | sveAes | svePmull128 | sve2 | sve2p1
  -- Derived from several fields
  | mpam | mpamV0p1 | mpamV1p1 | mteAsync | mteCanonicalTags | mteNoAddressTags | mte4
  deriving DecidableEq, Repr

namespace ArmFeature

/-- Every feature, in order. -/
def all : List ArmFeature :=
  [trbeExt, brbe, brbeV1p1, mtpmu, trbe, trf, doubleLock, spe, speV1p1, speV1p2, speV1p3, speV1p4, sebep, pmuV3Ss,
    pmuV3, pmuV3p1, pmuV3p4, pmuV3p5, pmuV3p7, pmuV3p8, pmuV3p9, debugV8p2, debugV8p4, debugV8p8, debugV8p9, speDpfzs,
    ebep, ite, able, bwe, pmuV3Icntr, spmu, rng, tlbiOs, tlbiRange, flagM, flagM2, fhm, dotProd, sm4, sm3, sha3, rdm,
    tme, lse, lse128, crc32, sha256, sha512, sha1, aes, pmull, ls64, ls64V, ls64AccData, xs, i8mm, dgh, bf16, ebf16,
    specRes, specRes2, sb, frintTs, pacImp, pacQarma5, lrcpc, lrcpc2, lrcpc3, fcma, jscvt, pauth, epac, pauth2, fpac,
    fpacCombine, dpb, dpb2, ats1a, cssc, rprfm, prfmSlc, sysInstr128, sysReg128, clrBhb, constPacField, hbc, mops,
    pacQarma3, rpres, wfxt, ecv, fgt, fgt2, exs, lpa2, mixedEndEl0, mixedEnd, asid16, lpa, ecbhb, cmow, tidcp1, afp,
    hcx, ets2, twed, xnx, pan, pan2, pan3, lor, hpds, hpds2, vhe, vmid16, hafDbs, haft, e0pd, evt, bbm, ttl, s2fwb,
    idst, lse2, ttst, ccidx, lva, lva3, iesb, lsmAoc, uao, ttCnp, aderr, anerr, d128, mec, aie, s2poe, s1poe, s2pie,
    s1pie, sctlr2, tcr2, csv3, csv2, csv2_2, csv2_3, rme, dit, amuV1, amuV1p1, sel2, sve, ras, doubleFault, rasV1p1,
    rasV2, advSimd, fp, fp16, pfar, doubleFault2, the, gcs, nmi, csv2_1p1, csv2_1p2, rngTrap, sme, sme2, mte, mte2,
    mte3, mteAsymFault, ssbs, ssbs2, bti, mteTaggedFar, mteStoreOnly, mtePerm, smeFa64, sme2p1, smeI16i64, smeF64f64,
    sveB16b16, smeF16f16, f64mm, f32mm, sveSm4, sveSha3, sveBitPerm, sveAes, svePmull128, sve2, sve2p1, mpam, mpamV0p1,
    mpamV1p1, mteAsync, mteCanonicalTags, mteNoAddressTags, mte4]

/-- The name of a feature. -/
def name : ArmFeature → String
  | trbeExt => "trbe_ext"
  | brbe => "brbe"
  | brbeV1p1 => "brbev1p1"
  | mtpmu => "mtpmu"
  | trbe => "trbe"
  | trf => "trf"
  | doubleLock => "doublelock"
  | spe => "spe"
  | speV1p1 => "spev1p1"
  | speV1p2 => "spev1p2"
  | speV1p3 => "spev1p3"
  | speV1p4 => "spev1p4"
  | sebep => "sebep"
  | pmuV3Ss => "pmuv3_ss"
  | pmuV3 => "pmuv3"
  | pmuV3p1 => "pmuv3p1"
  | pmuV3p4 => "pmuv3p4"
  | pmuV3p5 => "pmuv3p5"
  | pmuV3p7 => "pmuv3p7"
  | pmuV3p8 => "pmuv3p8"
  | pmuV3p9 => "pmuv3p9"
  | debugV8p2 => "debugv8p2"
  | debugV8p4 => "debugv8p4"
  | debugV8p8 => "debugv8p8"
  | debugV8p9 => "debugv8p9"
  | speDpfzs => "spe_dpfzs"
  | ebep => "ebep"
  | ite => "ite"
  | able => "able"
  | bwe => "bwe"
  | pmuV3Icntr => "pmuv3_icntr"
  | spmu => "spmu"
  | rng => "rng"
  | tlbiOs => "tlbios"
  | tlbiRange => "tlbirange"
  | flagM => "flagm"
  | flagM2 => "flagm2"
  | fhm => "fhm"
  | dotProd => "dotprod"
  | sm4 => "sm4"
  | sm3 => "sm3"
  | sha3 => "sha3"
  | rdm => "rdm"
  | tme => "tme"
  | lse => "lse"
  | lse128 => "lse128"
  | crc32 => "crc32"
  | sha256 => "sha256"
  | sha512 => "sha512"
  | sha1 => "sha1"
  | aes => "aes"
  | pmull => "pmull"
  | ls64 => "ls64"
  | ls64V => "ls64_v"
  | ls64AccData => "ls64_accdata"
  | xs => "xs"
  | i8mm => "i8mm"
  | dgh => "dgh"
  | bf16 => "bf16"
  | ebf16 => "ebf16"
  | specRes => "specres"
  | specRes2 => "specres2"
  | sb => "sb"
  | frintTs => "frintts"
  | pacImp => "pacimp"
  | pacQarma5 => "pacqarma5"
  | lrcpc => "lrcpc"
  | lrcpc2 => "lrcpc2"
  | lrcpc3 => "lrcpc3"
  | fcma => "fcma"
  | jscvt => "jscvt"
  | pauth => "pauth"
  | epac => "epac"
  | pauth2 => "pauth2"
  | fpac => "fpac"
  | fpacCombine => "fpaccombine"
  | dpb => "dpb"
  | dpb2 => "dpb2"
  | ats1a => "ats1a"
  | cssc => "cssc"
  | rprfm => "rprfm"
  | prfmSlc => "prfmslc"
  | sysInstr128 => "sysinstr128"
  | sysReg128 => "sysreg128"
  | clrBhb => "clrbhb"
  | constPacField => "constpacfield"
  | hbc => "hbc"
  | mops => "mops"
  | pacQarma3 => "pacqarma3"
  | rpres => "rpres"
  | wfxt => "wfxt"
  | ecv => "ecv"
  | fgt => "fgt"
  | fgt2 => "fgt2"
  | exs => "exs"
  | lpa2 => "lpa2"
  | mixedEndEl0 => "mixedendel0"
  | mixedEnd => "mixedend"
  | asid16 => "asid16"
  | lpa => "lpa"
  | ecbhb => "ecbhb"
  | cmow => "cmow"
  | tidcp1 => "tidcp1"
  | afp => "afp"
  | hcx => "hcx"
  | ets2 => "ets2"
  | twed => "twed"
  | xnx => "xnx"
  | pan => "pan"
  | pan2 => "pan2"
  | pan3 => "pan3"
  | lor => "lor"
  | hpds => "hpds"
  | hpds2 => "hpds2"
  | vhe => "vhe"
  | vmid16 => "vmid16"
  | hafDbs => "hafdbs"
  | haft => "haft"
  | e0pd => "e0pd"
  | evt => "evt"
  | bbm => "bbm"
  | ttl => "ttl"
  | s2fwb => "s2fwb"
  | idst => "idst"
  | lse2 => "lse2"
  | ttst => "ttst"
  | ccidx => "ccidx"
  | lva => "lva"
  | lva3 => "lva3"
  | iesb => "iesb"
  | lsmAoc => "lsmaoc"
  | uao => "uao"
  | ttCnp => "ttcnp"
  | aderr => "aderr"
  | anerr => "anerr"
  | d128 => "d128"
  | mec => "mec"
  | aie => "aie"
  | s2poe => "s2poe"
  | s1poe => "s1poe"
  | s2pie => "s2pie"
  | s1pie => "s1pie"
  | sctlr2 => "sctlr2"
  | tcr2 => "tcr2"
  | csv3 => "csv3"
  | csv2 => "csv2"
  | csv2_2 => "csv2_2"
  | csv2_3 => "csv2_3"
  | rme => "rme"
  | dit => "dit"
  | amuV1 => "amuv1"
  | amuV1p1 => "amuv1p1"
  | sel2 => "sel2"
  | sve => "sve"
  | ras => "ras"
  | doubleFault => "doublefault"
  | rasV1p1 => "rasv1p1"
  | rasV2 => "rasv2"
  | advSimd => "advsimd"
  | fp => "fp"
  | fp16 => "fp16"
  | pfar => "pfar"
  | doubleFault2 => "doublefault2"
  | the => "the"
  | gcs => "gcs"
  | nmi => "nmi"
  | csv2_1p1 => "csv2_1p1"
  | csv2_1p2 => "csv2_1p2"
  | rngTrap => "rng_trap"
  | sme => "sme"
  | sme2 => "sme2"
  | mte => "mte"
  | mte2 => "mte2"
  | mte3 => "mte3"
  | mteAsymFault => "mte_asym_fault"
  | ssbs => "ssbs"
  | ssbs2 => "ssbs2"
  | bti => "bti"
  | mteTaggedFar => "mte_tagged_far"
  | mteStoreOnly => "mte_store_only"
  | mtePerm => "mte_perm"
  | smeFa64 => "sme_fa64"
  | sme2p1 => "sme2p1"
  | smeI16i64 => "sme_i16i64"
  | smeF64f64 => "sme_f64f64"
  | sveB16b16 => "sve_b16b16"
  | smeF16f16 => "sme_f16f16"
  | f64mm => "f64mm"
  | f32mm => "f32mm"
  | sveSm4 => "sve_sm4"
  | sveSha3 => "sve_sha3"
  | sveBitPerm => "sve_bitperm"
  | sveAes => "sve_aes"
  | svePmull128 => "sve_pmull128"
  | sve2 => "sve2"
  | sve2p1 => "sve2p1"
  | mpam => "mpam"
  | mpamV0p1 => "mpamv0p1"
  | mpamV1p1 => "mpamv1p1"
  | mteAsync => "mte_async"
  | mteCanonicalTags => "mte_canonical_tags"
  | mteNoAddressTags => "mte_no_address_tags"
  | mte4 => "mte4"

theorem all_ctorIdx (f : ArmFeature) : all[f.ctorIdx]? = some f := by cases f <;> rfl

theorem ctorIdx_all : ∀ (i : Nat) (h : i < all.length), all[i].ctorIdx = i := by decide +kernel

instance : Feature ArmFeature where
  all := all
  index := ArmFeature.ctorIdx
  name := name
  all_index := all_ctorIdx
  index_all := ctorIdx_all

end ArmFeature
end CpuIdent
