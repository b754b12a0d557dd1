import CpuIdent.Feature.Level
import CpuIdent.Feature.X86
import CpuIdent.Signature.Basic

/-!
# Feature bits of x86 leaves

Which bit of which register reports a feature: the bits that all vendors share, and those of Intel and of AMD alone. A leaf that is
not supported or not known reports nothing. The x86-64 level is read off the features found.
-/

namespace CpuIdent

/-- The feature bits of one register of one leaf. -/
structure LeafTable where
  /-- The full number of the leaf. -/
  leaf : UInt32
  register : RegName
  bits : List (Nat × X86Feature)
  deriving DecidableEq, Repr

namespace LeafTable

/-- Adds the features that a leaf reports, if it is supported and known. -/
def addTo (t : LeafTable) (s : Signature) (flags : FeatureSet X86Feature) : FeatureSet X86Feature :=
  match s.leaf t.leaf with
  | some r => flags.addMatches t.bits (t.register.of r)
  | none => flags

/-- Adds the features of several tables. -/
def addAll (tables : List LeafTable) (s : Signature) (flags : FeatureSet X86Feature) : FeatureSet X86Feature :=
  tables.foldl (fun flags t => t.addTo s flags) flags

/-- The bits that every vendor of x86 CPUs uses alike. -/
def common : List LeafTable := [
  ⟨1, .edx, [
    (0, .fpu), (1, .vme), (2, .de), (3, .pse), (4, .tsc), (5, .msr), (6, .pae), (7, .mce), (8, .cx8), (9, .apic),
    (11, .sep), (12, .mtrr), (13, .pge), (14, .mca), (15, .cmov), (16, .pat), (17, .pse36), (19, .clflush), (23, .mmx),
    (24, .fxsr), (25, .sse), (26, .sse2), (28, .ht)]⟩,
  ⟨1, .ecx, [
    (0, .pni), (1, .pclmul), (3, .monitor), (9, .ssse3), (12, .fma3), (13, .cx16), (19, .sse4_1), (20, .sse4_2),
    (21, .x2apic), (22, .movbe), (23, .popcnt), (25, .aes), (26, .xsave), (27, .osxsave), (28, .avx), (29, .f16c),
    (30, .rdrand), (31, .hypervisor)]⟩,
  ⟨7, .ebx, [
    (0, .fsgsbase), (3, .bmi1), (5, .avx2), (7, .smep), (8, .bmi2), (9, .erms), (10, .invpcid), (16, .avx512f),
    (17, .avx512dq), (18, .rdseed), (19, .adx), (20, .smap), (23, .clflushopt), (24, .clwb), (26, .avx512pf),
    (27, .avx512er), (28, .avx512cd), (29, .shaNi), (30, .avx512bw), (31, .avx512vl)]⟩,
  ⟨7, .ecx, [
    (1, .avx512vbmi), (2, .umip), (3, .pku), (4, .ospke), (6, .avx512vbmi2), (8, .gfni), (9, .vaes), (10, .vpclmulqdq),
    (11, .avx512vnni), (12, .avx512bitalg), (14, .avx512vpopcntdq), (22, .rdpid)]⟩,
  ⟨0x80000001, .edx, [
    (11, .syscall), (27, .rdtscp), (29, .lm)]⟩,
  ⟨0x80000001, .ecx, [
    (0, .lahfLm), (5, .abm)]⟩,
  ⟨0x80000007, .edx, [
    (8, .constantTsc)]⟩]

/-- The bits that Intel adds. -/
def intel : List LeafTable := [
  ⟨1, .edx, [
    (18, .pn), (21, .dts), (22, .acpi), (27, .ss), (29, .tm), (30, .ia64), (31, .pbe)]⟩,
  ⟨1, .ecx, [
    (2, .dts64), (4, .dsCpl), (5, .vmx), (6, .smx), (7, .est), (8, .tm2), (10, .cid), (14, .xtpr), (15, .pdcm),
    (18, .dca)]⟩,
  ⟨0x80000001, .edx, [
    (20, .xd)]⟩,
  ⟨7, .ebx, [
    (2, .sgx), (4, .hle), (11, .rtm), (14, .mpx)]⟩,
  ⟨7, .ecx, [
    (5, .waitpkg), (25, .cldemote), (27, .movdiri), (28, .movdir64b)]⟩,
  ⟨7, .edx, [
    (2, .avx512_4vnniw), (3, .avx512_4fmaps), (4, .fsrm), (14, .serialize), (15, .hybrid), (22, .amxBf16),
    (24, .amxTile), (25, .amxInt8)]⟩]

/-- The bits that AMD and Hygon add. -/
def amd : List LeafTable := [
  ⟨0x80000001, .edx, [
    (20, .nx), (22, .mmxext), (25, .fxsrOpt), (27, .rdtscp), (30, .amd3dnowExt), (31, .amd3dnow)]⟩,
  ⟨0x80000001, .ecx, [
    (1, .cmpLegacy), (2, .svm), (6, .sse4a), (7, .misalignSse), (8, .amd3dnowPrefetch), (9, .osvw), (10, .ibs),
    (11, .xop), (12, .skinit), (13, .wdt), (16, .fma4), (21, .tbm), (22, .topoext)]⟩,
  ⟨0x80000007, .edx, [
    (0, .ts), (1, .fid), (2, .vid), (3, .ttp), (4, .tmAmd), (5, .stc), (6, .steps100Mhz), (7, .hwpstate), (9, .cpb),
    (10, .aperfMperf), (11, .pfi), (12, .pa)]⟩]

end LeafTable

namespace FeatureLevel

/-- The x86-64 levels from the lowest up, each with the features that it adds to those of the levels below. -/
def x86Requirements : List (FeatureLevel × List X86Feature) := [
  (.x86V1, [.cmov, .cx8, .fpu, .fxsr, .mmx, .sse, .sse2]),
  (.x86V2, [.cx16, .lahfLm, .popcnt, .pni, .sse4_1, .sse4_2, .ssse3]),
  (.x86V3, [.avx, .avx2, .bmi1, .bmi2, .f16c, .fma3, .abm, .movbe, .osxsave]),
  (.x86V4, [.avx512f, .avx512bw, .avx512cd, .avx512dq, .avx512vl])]

/-- The highest x86-64 level whose features, and those of all levels below it, are in the set. -/
def ofX86 (flags : FeatureSet X86Feature) : FeatureLevel :=
  ((x86Requirements.takeWhile fun row => flags.containsAll row.2).getLast?.map Prod.fst).getD unknown

end FeatureLevel
end CpuIdent
