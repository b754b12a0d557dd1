import CpuIdent.Feature.Basic

/-!
# x86 features

The feature flags of x86 CPUs, under the names that Linux lists them by.
-/

namespace CpuIdent

/-- A feature that an x86 CPU may report. -/
inductive X86Feature where
  | fpu | vme | de | pse | tsc | msr | pae | mce | cx8 | apic | mtrr | sep | pge | mca | cmov | pat | pse36 | pn
  | clflush | dts | acpi | mmx | fxsr | sse | sse2 | ss | ht | tm | ia64 | pbe | pni | pclmul | dts64 | monitor | dsCpl
  | vmx | smx | est | tm2 | ssse3 | cid | fma3 | cx16 | xtpr | pdcm | dca | sse4_1 | sse4_2 | x2apic | movbe | popcnt
  | aes | xsave | osxsave | avx | f16c | rdrand | hypervisor | syscall | xd | mmxext | fxsrOpt | amd3dnow | amd3dnowExt
  | nx | rdtscp | lm | lahfLm | cmpLegacy | svm | abm | sse4a | misalignSse | amd3dnowPrefetch | osvw | ibs | xop
  | skinit | wdt | fma4 | tbm | topoext | ts | fid | vid | ttp | tmAmd | stc | steps100Mhz | hwpstate | constantTsc
  | cpb | aperfMperf | pfi | pa | fsgsbase | sgx | bmi1 | hle | avx2 | smep | bmi2 | erms | invpcid | rtm | mpx
  | avx512f | avx512dq | rdseed | adx | smap | clflushopt | clwb | avx512pf | avx512er | avx512cd | shaNi | avx512bw
  | avx512vl | avx512vbmi | umip | pku | ospke | waitpkg | avx512vbmi2 | gfni | vaes | vpclmulqdq | avx512vnni
  | avx512bitalg | avx512vpopcntdq | rdpid | cldemote | movdiri | movdir64b | avx512_4vnniw | avx512_4fmaps | fsrm
  | serialize | hybrid | amxBf16 | amxTile | amxInt8
  deriving DecidableEq, Repr

namespace X86Feature

/-- Every feature, in order. -/
def all : List X86Feature :=
  [fpu, vme, de, pse, tsc, msr, pae, mce, cx8, apic, mtrr, sep, pge, mca, cmov, pat, pse36, pn, clflush, dts, acpi,
    mmx, fxsr, sse, sse2, ss, ht, tm, ia64, pbe, pni, pclmul, dts64, monitor, dsCpl, vmx, smx, est, tm2, ssse3, cid,
    fma3, cx16, xtpr, pdcm, dca, sse4_1, sse4_2, x2apic, movbe, popcnt, aes, xsave, osxsave, avx, f16c, rdrand,
    hypervisor, syscall, xd, mmxext, fxsrOpt, amd3dnow, amd3dnowExt, nx, rdtscp, lm, lahfLm, cmpLegacy, svm, abm, sse4a,
    misalignSse, amd3dnowPrefetch, osvw, ibs, xop, skinit, wdt, fma4, tbm, topoext, ts, fid, vid, ttp, tmAmd, stc,
    steps100Mhz, hwpstate, constantTsc, cpb, aperfMperf, pfi, pa, fsgsbase, sgx, bmi1, hle, avx2, smep, bmi2, erms,
    invpcid, rtm, mpx, avx512f, avx512dq, rdseed, adx, smap, clflushopt, clwb, avx512pf, avx512er, avx512cd, shaNi,
    avx512bw, avx512vl, avx512vbmi, umip, pku, ospke, waitpkg, avx512vbmi2, gfni, vaes, vpclmulqdq, avx512vnni,
    avx512bitalg, avx512vpopcntdq, rdpid, cldemote, movdiri, movdir64b, avx512_4vnniw, avx512_4fmaps, fsrm, serialize,
    hybrid, amxBf16, amxTile, amxInt8]

/-- The name of a feature. -/
def name : X86Feature → String
  | fpu => "fpu"
  | vme => "vme"
  | de => "de"
  | pse => "pse"
  | tsc => "tsc"
  | msr => "msr"
  | pae => "pae"
  | mce => "mce"
  | cx8 => "cx8"
  | apic => "apic"
  | mtrr => "mtrr"
  | sep => "sep"
  | pge => "pge"
  | mca => "mca"
  | cmov => "cmov"
  | pat => "pat"
  | pse36 => "pse36"
  | pn => "pn"
  | clflush => "clflush"
  | dts => "dts"
  | acpi => "acpi"
  | mmx => "mmx"
  | fxsr => "fxsr"
  | sse => "sse"
  | sse2 => "sse2"
  | ss => "ss"
  | ht => "ht"
  | tm => "tm"
  | ia64 => "ia64"
  | pbe => "pbe"
  | pni => "pni"
  | pclmul => "pclmul"
  | dts64 => "dts64"
  | monitor => "monitor"
  | dsCpl => "ds_cpl"
  | vmx => "vmx"
  | smx => "smx"
  | est => "est"
  | tm2 => "tm2"
  | ssse3 => "ssse3"
  | cid => "cid"
  | fma3 => "fma3"
  | cx16 => "cx16"
  | xtpr => "xtpr"
  | pdcm => "pdcm"
  | dca => "dca"
  | sse4_1 => "sse4_1"
  | sse4_2 => "sse4_2"
  | x2apic => "x2apic"
  | movbe => "movbe"
  | popcnt => "popcnt"
  | aes => "aes"
  | xsave => "xsave"
  | osxsave => "osxsave"
  | avx => "avx"
  | f16c => "f16c"
  | rdrand => "rdrand"
  | hypervisor => "hypervisor"
  | syscall => "syscall"
  | xd => "xd"
  | mmxext => "mmxext"
  | fxsrOpt => "fxsr_opt"
  | amd3dnow => "3dnow"
  | amd3dnowExt => "3dnowext"
  | nx => "nx"
  | rdtscp => "rdtscp"
  | lm => "lm"
  | lahfLm => "lahf_lm"
  | cmpLegacy => "cmp_legacy"
  | svm => "svm"
  | abm => "abm"
  | sse4a => "sse4a"
  | misalignSse => "misalignsse"
  | amd3dnowPrefetch => "3dnowprefetch"
  | osvw => "osvw"
  | ibs => "ibs"
  | xop => "xop"
  | skinit => "skinit"
  | wdt => "wdt"
  | fma4 => "fma4"
  | tbm => "tbm"
  | topoext => "topoext"
  | ts => "ts"
  | fid => "fid"
  | vid => "vid"
  | ttp => "ttp"
  | tmAmd => "tm_amd"
  | stc => "stc"
  | steps100Mhz => "100mhzsteps"
  | hwpstate => "hwpstate"
  | constantTsc => "constant_tsc"
  | cpb => "cpb"
  | aperfMperf => "aperfmperf"
  | pfi => "pfi"
  | pa => "pa"
  | fsgsbase => "fsgsbase"
  | sgx => "sgx"
  | bmi1 => "bmi1"
  | hle => "hle"
  | avx2 => "avx2"
  | smep => "smep"
  | bmi2 => "bmi2"
  | erms => "erms"
  | invpcid => "invpcid"
  | rtm => "rtm"
  | mpx => "mpx"
  | avx512f => "avx512f"
  | avx512dq => "avx512dq"
  | rdseed => "rdseed"
  | adx => "adx"
  | smap => "smap"
  | clflushopt => "clflushopt"
  | clwb => "clwb"
  | avx512pf => "avx512pf"
  | avx512er => "avx512er"
  | avx512cd => "avx512cd"
  | shaNi => "sha_ni"
  | avx512bw => "avx512bw"
  | avx512vl => "avx512vl"
  | avx512vbmi => "avx512vbmi"
  | umip => "umip"
  | pku => "pku"
  | ospke => "ospke"
  | waitpkg => "waitpkg"
  | avx512vbmi2 => "avx512vbmi2"
  | gfni => "gfni"
  | vaes => "vaes"
  | vpclmulqdq => "vpclmulqdq"
  | avx512vnni => "avx512vnni"
  | avx512bitalg => "avx512bitalg"
  | avx512vpopcntdq => "avx512vpopcntdq"
  | rdpid => "rdpid"
  | cldemote => "cldemote"
  | movdiri => "movdiri"
  | movdir64b => "movdir64b"
  | avx512_4vnniw => "avx512_4vnniw"
  | avx512_4fmaps => "avx512_4fmaps"
  | fsrm => "fsrm"
  | serialize => "serialize"
  | hybrid => "hybrid"
  | amxBf16 => "amx_bf16"
  | amxTile => "amx_tile"
  | amxInt8 => "amx_int8"

theorem all_ctorIdx (f : X86Feature) : all[f.ctorIdx]? = some f := by cases f <;> rfl

theorem ctorIdx_all : ∀ (i : Nat) (h : i < all.length), all[i].ctorIdx = i := by decide +kernel

instance : Feature X86Feature where
  all := all
  index := X86Feature.ctorIdx
  name := name
  all_index := all_ctorIdx
  index_all := ctorIdx_all

end X86Feature
end CpuIdent
