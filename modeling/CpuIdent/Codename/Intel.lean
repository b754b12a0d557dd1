import CpuIdent.Codename.Basic

/-!
# Intel models

The codenames of Intel CPUs, from the 486 on.
-/

namespace CpuIdent
namespace Codename

/-- The models of Intel. -/
def intel : List CodenameRow := [
  { codename := "Unknown Intel CPU" },
  -- i486
  { family := some 4, codename := "Unknown i486", technology := "1 um" },
  { family := some 4, model := some 0, codename := "i486 DX-25/33", technology := "1 um" },
  { family := some 4, model := some 1, codename := "i486 DX-50", technology := "1 um" },
  { family := some 4, model := some 2, codename := "i486 SX", technology := "1 um" },
  { family := some 4, model := some 3, codename := "i486 DX2", technology := "0.8 um" },
  { family := some 4, model := some 4, codename := "i486 SL", technology := "0.8 um" },
  { family := some 4, model := some 5, codename := "i486 SX2", technology := "0.8 um" },
  { family := some 4, model := some 7, codename := "i486 DX2 WriteBack", technology := "0.8 um" },
  { family := some 4, model := some 8, codename := "i486 DX4", technology := "0.6 um" },
  { family := some 4, model := some 9, codename := "i486 DX4 WriteBack", technology := "0.6 um" },
  -- Pentium
  { family := some 5, codename := "Unknown Pentium" },
  { family := some 5, model := some 0, codename := "Pentium A-Step", technology := "0.8 um" },
  { family := some 5, model := some 1, codename := "Pentium 1 (0.8u)", technology := "0.8 um" },
  { family := some 5, model := some 2, codename := "Pentium 1 (0.35u)", technology := "0.35 um" },
  { family := some 5, model := some 3, codename := "Pentium OverDrive", technology := "0.6 um" },
  { family := some 5, model := some 4, codename := "Pentium 1 (0.35u)", technology := "0.35 um" },
  { family := some 5, model := some 7, codename := "Pentium 1 (0.35u)", technology := "0.35 um" },
  { family := some 5, model := some 8, codename := "Pentium MMX (0.25u)", technology := "0.25 um" },
  -- P6
  { family := some 6, extFamily := some 6, codename := "Unknown P6" },
  { family := some 6, model := some 0, extFamily := some 6, extModel := some 0, codename := "Pentium Pro",
    technology := "0.35 um" },
  { family := some 6, model := some 1, extFamily := some 6, extModel := some 1, codename := "Pentium Pro",
    technology := "0.35 um" },
  { family := some 6, model := some 3, extFamily := some 6, extModel := some 3, codename := "Pentium II (Klamath)",
    technology := "0.35 um" },
  { family := some 6, model := some 5, extFamily := some 6, extModel := some 5, codename := "Pentium II (Deschutes)",
    technology := "0.25 um" },
  { family := some 6, model := some 6, extFamily := some 6, extModel := some 6, codename := "Pentium II (Dixon)",
    technology := "0.25 um" },
  { family := some 6, model := some 3, extFamily := some 6, extModel := some 3, brand := some ⟨"Xeon", 2⟩,
    codename := "P-II Xeon", technology := "0.35 um" },
  { family := some 6, model := some 5, extFamily := some 6, extModel := some 5, brand := some ⟨"Xeon", 2⟩,
    codename := "P-II Xeon", technology := "0.25 um" },
  { family := some 6, model := some 6, extFamily := some 6, extModel := some 6, brand := some ⟨"Xeon", 2⟩,
    codename := "P-II Xeon", technology := "0.25 um" },
  { family := some 6, model := some 5, extFamily := some 6, extModel := some 5, l2 := some 0,
    brand := some ⟨"Celeron", 2⟩, codename := "P-II Celeron (no L2)", technology := "0.25 um" },
  { family := some 6, model := some 6, extFamily := some 6, extModel := some 6, l2 := some 128,
    brand := some ⟨"Celeron", 2⟩, codename := "P-II Celeron (128K)", technology := "0.25 um" },
  { family := some 6, model := some 7, extFamily := some 6, extModel := some 7, codename := "Pentium III (Katmai)",
    technology := "0.25 um" },
  { family := some 6, model := some 8, extFamily := some 6, extModel := some 8, codename := "Pentium III (Coppermine)",
    technology := "0.18 um" },
  { family := some 6, model := some 10, extFamily := some 6, extModel := some 10, codename := "Pentium III (Coppermine)",
    technology := "0.18 um" },
  { family := some 6, model := some 11, extFamily := some 6, extModel := some 11, codename := "Pentium III (Tualatin)",
    technology := "0.13 um" },
  { family := some 6, model := some 7, extFamily := some 6, extModel := some 7, brand := some ⟨"Xeon", 2⟩,
    codename := "P-III Xeon", technology := "0.25 um" },
  { family := some 6, model := some 8, extFamily := some 6, extModel := some 8, brand := some ⟨"Xeon", 2⟩,
    codename := "P-III Xeon", technology := "0.18 um" },
  { family := some 6, model := some 10, extFamily := some 6, extModel := some 10, brand := some ⟨"Xeon", 2⟩,
    codename := "P-III Xeon", technology := "0.18 um" },
  { family := some 6, model := some 11, extFamily := some 6, extModel := some 11, brand := some ⟨"Xeon", 2⟩,
    codename := "P-III Xeon", technology := "0.13 um" },
  { family := some 6, model := some 7, extFamily := some 6, extModel := some 7, brand := some ⟨"Celeron", 2⟩,
    codename := "P-III Celeron", technology := "0.25 um" },
  { family := some 6, model := some 8, extFamily := some 6, extModel := some 8, brand := some ⟨"Celeron", 2⟩,
    codename := "P-III Celeron", technology := "0.18 um" },
  { family := some 6, model := some 10, extFamily := some 6, extModel := some 10, brand := some ⟨"Celeron", 2⟩,
    codename := "P-III Celeron", technology := "0.18 um" },
  { family := some 6, model := some 11, extFamily := some 6, extModel := some 11, brand := some ⟨"Celeron", 2⟩,
    codename := "P-III Celeron", technology := "0.13 um" },
  -- Pentium M
  { family := some 6, model := some 9, extFamily := some 6, extModel := some 9, codename := "Unknown Pentium M",
    technology := "130 nm" },
  { family := some 6, model := some 9, extFamily := some 6, extModel := some 9, brand := some ⟨"Pentium(R) M", 2⟩,
    codename := "Pentium M (Banias)", technology := "130 nm" },
  { family := some 6, model := some 9, extFamily := some 6, extModel := some 9, brand := some ⟨"Celeron(R) M", 4⟩,
    codename := "Celeron M", technology := "130 nm" },
  { family := some 6, model := some 13, extFamily := some 6, extModel := some 13, brand := some ⟨"Pentium(R) M", 2⟩,
    codename := "Pentium M (Dothan)", technology := "90 nm" },
  { family := some 6, model := some 13, extFamily := some 6, extModel := some 13, brand := some ⟨"Celeron(R) M", 4⟩,
    codename := "Celeron M", technology := "90 nm" },
  -- Yonah and Core 2
  { family := some 6, model := some 14, extFamily := some 6, extModel := some 14, codename := "Unknown Yonah",
    technology := "65 nm" },
  { family := some 6, model := some 14, extFamily := some 6, extModel := some 14, cores := some 1,
    codename := "Yonah (Core Solo)", technology := "65 nm" },
  { family := some 6, model := some 14, extFamily := some 6, extModel := some 14, cores := some 2,
    codename := "Yonah (Core Duo)", technology := "65 nm" },
  { family := some 6, model := some 14, extFamily := some 6, extModel := some 14, brand := some ⟨"Xeon", 2⟩,
    codename := "Xeon LV", technology := "65 nm" },
  { family := some 6, model := some 15, extFamily := some 6, extModel := some 15, codename := "Unknown Core 2",
    technology := "65 nm" },
  { family := some 6, model := some 15, extFamily := some 6, extModel := some 15, cores := some 2,
    codename := "Conroe (Core 2 Duo)", technology := "65 nm" },
  { family := some 6, model := some 15, extFamily := some 6, extModel := some 15, cores := some 4,
    codename := "Kentsfield", technology := "65 nm" },
  { family := some 6, model := some 15, extFamily := some 6, extModel := some 15,
    brand := some ⟨"Core(TM)2 Duo E4###", 4⟩, codename := "Allendale (Core 2 Duo)", technology := "65 nm" },
  { family := some 6, model := some 15, extFamily := some 6, extModel := some 15, brand := some ⟨"Xeon", 2⟩,
    codename := "Woodcrest/Clovertown (Xeon)", technology := "65 nm" },
  { family := some 6, model := some 6, extFamily := some 6, extModel := some 22, codename := "Conroe-L (Celeron)",
    technology := "65 nm" },
  { family := some 6, model := some 7, extFamily := some 6, extModel := some 23, codename := "Penryn (Core 2)",
    technology := "45 nm" },
  { family := some 6, model := some 7, extFamily := some 6, extModel := some 23, cores := some 4,
    codename := "Yorkfield (Core 2 Quad)", technology := "45 nm" },
  { family := some 6, model := some 7, extFamily := some 6, extModel := some 23, brand := some ⟨"Xeon", 2⟩,
    codename := "Harpertown/Wolfdale (Xeon)", technology := "45 nm" },
  { family := some 6, model := some 13, extFamily := some 6, extModel := some 29, codename := "Dunnington (Xeon)",
    technology := "45 nm" },
  -- Atom
  { family := some 6, model := some 12, extFamily := some 6, extModel := some 28, codename := "Unknown Atom",
    technology := "45 nm" },
  { family := some 6, model := some 12, extFamily := some 6, extModel := some 28, brand := some ⟨"Atom(TM) 2##", 4⟩,
    codename := "Atom (Diamondville)", technology := "45 nm" },
  { family := some 6, model := some 12, extFamily := some 6, extModel := some 28, cores := some 2,
    brand := some ⟨"Atom(TM) 3##", 4⟩, codename := "Atom (Dual Core)", technology := "45 nm" },
  { family := some 6, model := some 12, extFamily := some 6, extModel := some 28, brand := some ⟨"Atom(TM) Z5##", 4⟩,
    codename := "Atom (Silverthorne)", technology := "45 nm" },
  { family := some 6, model := some 12, extFamily := some 6, extModel := some 28, brand := some ⟨"Atom(TM) N4##", 4⟩,
    codename := "Atom (Pineview)", technology := "45 nm" },
  { family := some 6, model := some 6, extFamily := some 6, extModel := some 54, codename := "Atom (Cedarview)",
    technology := "32 nm" },
  { family := some 6, model := some 7, extFamily := some 6, extModel := some 55, codename := "Atom (Bay Trail)",
    technology := "22 nm" },
  { family := some 6, model := some 13, extFamily := some 6, extModel := some 77, codename := "Atom (Avoton)",
    technology := "22 nm" },
  { family := some 6, model := some 12, extFamily := some 6, extModel := some 76, codename := "Atom (Cherry Trail)",
    technology := "14 nm" },
  { family := some 6, model := some 12, extFamily := some 6, extModel := some 92, codename := "Atom (Apollo Lake)",
    technology := "14 nm" },
  { family := some 6, model := some 15, extFamily := some 6, extModel := some 95, codename := "Atom (Denverton)",
    technology := "14 nm" },
  { family := some 6, model := some 10, extFamily := some 6, extModel := some 122, codename := "Atom (Gemini Lake)",
    technology := "14 nm" },
  { family := some 6, model := some 6, extFamily := some 6, extModel := some 150, codename := "Atom (Elkhart Lake)",
    technology := "10 nm" },
  { family := some 6, model := some 12, extFamily := some 6, extModel := some 156, codename := "Atom (Jasper Lake)",
    technology := "10 nm" },
  { family := some 6, model := some 6, extFamily := some 6, extModel := some 134, codename := "Atom (Snow Ridge)",
    technology := "10 nm" },
  { family := some 6, model := some 7, extFamily := some 6, extModel := some 87,
    codename := "Knights Landing (Xeon Phi)", technology := "14 nm" },
  { family := some 6, model := some 5, extFamily := some 6, extModel := some 133, codename := "Knights Mill (Xeon Phi)",
    technology := "14 nm" },
  -- Nehalem and Westmere
  { family := some 6, model := some 10, extFamily := some 6, extModel := some 26, codename := "Bloomfield (Core i7)",
    technology := "45 nm" },
  { family := some 6, model := some 10, extFamily := some 6, extModel := some 26, brand := some ⟨"Xeon", 2⟩,
    codename := "Gainestown (Xeon)", technology := "45 nm" },
  { family := some 6, model := some 14, extFamily := some 6, extModel := some 30, codename := "Lynnfield (Core i5/i7)",
    technology := "45 nm" },
  { family := some 6, model := some 14, extFamily := some 6, extModel := some 30, brand := some ⟨"Core(TM) i7-7##", 4⟩,
    codename := "Clarksfield (Core i7)", technology := "45 nm" },
  { family := some 6, model := some 5, extFamily := some 6, extModel := some 37, codename := "Clarkdale (Core i3/i5)",
    technology := "32 nm" },
  { family := some 6, model := some 5, extFamily := some 6, extModel := some 37, brand := some ⟨"Core(TM) i#-#..M", 4⟩,
    codename := "Arrandale (Core i3/i5/i7)", technology := "32 nm" },
  { family := some 6, model := some 12, extFamily := some 6, extModel := some 44, codename := "Gulftown (Core i7)",
    technology := "32 nm" },
  { family := some 6, model := some 12, extFamily := some 6, extModel := some 44, brand := some ⟨"Xeon", 2⟩,
    codename := "Westmere-EP (Xeon)", technology := "32 nm" },
  { family := some 6, model := some 14, extFamily := some 6, extModel := some 46, codename := "Beckton (Xeon)",
    technology := "45 nm" },
  { family := some 6, model := some 15, extFamily := some 6, extModel := some 47, codename := "Westmere-EX (Xeon)",
    technology := "32 nm" },
  -- Sandy Bridge and Ivy Bridge
  { family := some 6, model := some 10, extFamily := some 6, extModel := some 42, codename := "Sandy Bridge",
    technology := "32 nm" },
  { family := some 6, model := some 10, extFamily := some 6, extModel := some 42, brand := some ⟨"Core(TM) i3-2###", 4⟩,
    codename := "Sandy Bridge (Core i3)", technology := "32 nm" },
  { family := some 6, model := some 10, extFamily := some 6, extModel := some 42, brand := some ⟨"Core(TM) i5-2###", 4⟩,
    codename := "Sandy Bridge (Core i5)", technology := "32 nm" },
  { family := some 6, model := some 10, extFamily := some 6, extModel := some 42, brand := some ⟨"Core(TM) i7-2###", 4⟩,
    codename := "Sandy Bridge (Core i7)", technology := "32 nm" },
  { family := some 6, model := some 10, extFamily := some 6, extModel := some 42, brand := some ⟨"Xeon", 2⟩,
    codename := "Sandy Bridge (Xeon)", technology := "32 nm" },
  { family := some 6, model := some 13, extFamily := some 6, extModel := some 45, codename := "Sandy Bridge-E",
    technology := "32 nm" },
  { family := some 6, model := some 13, extFamily := some 6, extModel := some 45, brand := some ⟨"Xeon", 2⟩,
    codename := "Sandy Bridge-EP (Xeon)", technology := "32 nm" },
  { family := some 6, model := some 10, extFamily := some 6, extModel := some 58, codename := "Ivy Bridge",
    technology := "22 nm" },
  { family := some 6, model := some 10, extFamily := some 6, extModel := some 58, brand := some ⟨"Core(TM) i3-3###", 4⟩,
    codename := "Ivy Bridge (Core i3)", technology := "22 nm" },
  { family := some 6, model := some 10, extFamily := some 6, extModel := some 58, brand := some ⟨"Core(TM) i5-3###", 4⟩,
    codename := "Ivy Bridge (Core i5)", technology := "22 nm" },
  { family := some 6, model := some 10, extFamily := some 6, extModel := some 58, brand := some ⟨"Core(TM) i7-3###", 4⟩,
    codename := "Ivy Bridge (Core i7)", technology := "22 nm" },
  { family := some 6, model := some 14, extFamily := some 6, extModel := some 62, codename := "Ivy Bridge-E",
    technology := "22 nm" },
  { family := some 6, model := some 14, extFamily := some 6, extModel := some 62, brand := some ⟨"Xeon", 2⟩,
    codename := "Ivy Bridge-EP (Xeon)", technology := "22 nm" },
  -- Haswell and Broadwell
  { family := some 6, model := some 12, extFamily := some 6, extModel := some 60, codename := "Haswell",
    technology := "22 nm" },
  { family := some 6, model := some 12, extFamily := some 6, extModel := some 60, brand := some ⟨"Core(TM) i3-4###", 4⟩,
    codename := "Haswell (Core i3)", technology := "22 nm" },
  { family := some 6, model := some 12, extFamily := some 6, extModel := some 60, brand := some ⟨"Core(TM) i5-4###", 4⟩,
    codename := "Haswell (Core i5)", technology := "22 nm" },
  { family := some 6, model := some 12, extFamily := some 6, extModel := some 60, brand := some ⟨"Core(TM) i7-4###", 4⟩,
    codename := "Haswell (Core i7)", technology := "22 nm" },
  { family := some 6, model := some 5, extFamily := some 6, extModel := some 69, codename := "Haswell-ULT",
    technology := "22 nm" },
  { family := some 6, model := some 6, extFamily := some 6, extModel := some 70, codename := "Crystal Well",
    technology := "22 nm" },
  { family := some 6, model := some 15, extFamily := some 6, extModel := some 63, codename := "Haswell-E",
    technology := "22 nm" },
  { family := some 6, model := some 15, extFamily := some 6, extModel := some 63, brand := some ⟨"Xeon", 2⟩,
    codename := "Haswell-EP (Xeon)", technology := "22 nm" },
  { family := some 6, model := some 13, extFamily := some 6, extModel := some 61, codename := "Broadwell-U",
    technology := "14 nm" },
  { family := some 6, model := some 7, extFamily := some 6, extModel := some 71, codename := "Broadwell-H",
    technology := "14 nm" },
  { family := some 6, model := some 15, extFamily := some 6, extModel := some 79, codename := "Broadwell-E",
    technology := "14 nm" },
  { family := some 6, model := some 15, extFamily := some 6, extModel := some 79, brand := some ⟨"Xeon", 2⟩,
    codename := "Broadwell-EP (Xeon)", technology := "14 nm" },
  { family := some 6, model := some 6, extFamily := some 6, extModel := some 86, codename := "Broadwell-DE (Xeon D)",
    technology := "14 nm" },
  -- Skylake family
  { family := some 6, model := some 14, extFamily := some 6, extModel := some 78, codename := "Skylake-U/Y",
    technology := "14 nm" },
  { family := some 6, model := some 14, extFamily := some 6, extModel := some 94, codename := "Skylake",
    technology := "14 nm" },
  { family := some 6, model := some 14, extFamily := some 6, extModel := some 94, brand := some ⟨"Core(TM) i3-6###", 4⟩,
    codename := "Skylake (Core i3)", technology := "14 nm" },
  { family := some 6, model := some 14, extFamily := some 6, extModel := some 94, brand := some ⟨"Core(TM) i5-6###", 4⟩,
    codename := "Skylake (Core i5)", technology := "14 nm" },
  { family := some 6, model := some 14, extFamily := some 6, extModel := some 94, brand := some ⟨"Core(TM) i7-6###", 4⟩,
    codename := "Skylake (Core i7)", technology := "14 nm" },
  { family := some 6, model := some 14, extFamily := some 6, extModel := some 94, brand := some ⟨"Xeon", 2⟩,
    codename := "Skylake (Xeon E3)", technology := "14 nm" },
  { family := some 6, model := some 5, extFamily := some 6, extModel := some 85, codename := "Skylake-X",
    technology := "14 nm" },
  { family := some 6, model := some 5, extFamily := some 6, extModel := some 85, brand := some ⟨"Xeon", 2⟩,
    codename := "Skylake-SP (Xeon Scalable)", technology := "14 nm" },
  { family := some 6, model := some 5, extFamily := some 6, extModel := some 85, brand := some ⟨"Xeon(R) Gold #2##", 6⟩,
    codename := "Cascade Lake-SP (Xeon Scalable)", technology := "14 nm" },
  { family := some 6, model := some 5, extFamily := some 6, extModel := some 85,
    brand := some ⟨"Xeon(R) Platinum #2##", 6⟩, codename := "Cascade Lake-SP (Xeon Scalable)", technology := "14 nm" },
  { family := some 6, model := some 5, extFamily := some 6, extModel := some 85, brand := some ⟨"Xeon(R) Gold #3##", 6⟩,
    codename := "Cooper Lake-SP (Xeon Scalable)", technology := "14 nm" },
  { family := some 6, model := some 14, extFamily := some 6, extModel := some 142, codename := "Kaby Lake-U/Y",
    technology := "14 nm" },
  { family := some 6, model := some 14, extFamily := some 6, extModel := some 142,
    brand := some ⟨"Core(TM) i#-8###U", 6⟩, codename := "Whiskey Lake-U", technology := "14 nm" },
  { family := some 6, model := some 14, extFamily := some 6, extModel := some 142,
    brand := some ⟨"Core(TM) i#-10###Y", 6⟩, codename := "Amber Lake-Y", technology := "14 nm" },
  { family := some 6, model := some 14, extFamily := some 6, extModel := some 158, codename := "Kaby Lake",
    technology := "14 nm" },
  { family := some 6, model := some 14, extFamily := some 6, extModel := some 158, brand := some ⟨"Core(TM) i3-7###", 4⟩,
    codename := "Kaby Lake (Core i3)", technology := "14 nm" },
  { family := some 6, model := some 14, extFamily := some 6, extModel := some 158, brand := some ⟨"Core(TM) i5-7###", 4⟩,
    codename := "Kaby Lake (Core i5)", technology := "14 nm" },
  { family := some 6, model := some 14, extFamily := some 6, extModel := some 158, brand := some ⟨"Core(TM) i7-7###", 4⟩,
    codename := "Kaby Lake (Core i7)", technology := "14 nm" },
  { family := some 6, model := some 14, extFamily := some 6, extModel := some 158, brand := some ⟨"Core(TM) i3-8###", 4⟩,
    codename := "Coffee Lake (Core i3)", technology := "14 nm" },
  { family := some 6, model := some 14, extFamily := some 6, extModel := some 158, brand := some ⟨"Core(TM) i5-8###", 4⟩,
    codename := "Coffee Lake (Core i5)", technology := "14 nm" },
  { family := some 6, model := some 14, extFamily := some 6, extModel := some 158, brand := some ⟨"Core(TM) i7-8###", 4⟩,
    codename := "Coffee Lake (Core i7)", technology := "14 nm" },
  { family := some 6, model := some 14, extFamily := some 6, extModel := some 158, brand := some ⟨"Core(TM) i#-9###", 4⟩,
    codename := "Coffee Lake Refresh", technology := "14 nm" },
  { family := some 6, model := some 14, extFamily := some 6, extModel := some 158, brand := some ⟨"Xeon", 2⟩,
    codename := "Coffee Lake (Xeon E)", technology := "14 nm" },
  { family := some 6, model := some 5, extFamily := some 6, extModel := some 165, codename := "Comet Lake",
    technology := "14 nm" },
  { family := some 6, model := some 6, extFamily := some 6, extModel := some 166, codename := "Comet Lake-U",
    technology := "14 nm" },
  { family := some 6, model := some 7, extFamily := some 6, extModel := some 167, codename := "Rocket Lake",
    technology := "14 nm" },
  -- Ice Lake and Tiger Lake
  { family := some 6, model := some 14, extFamily := some 6, extModel := some 126, codename := "Ice Lake-U/Y",
    technology := "10 nm" },
  { family := some 6, model := some 13, extFamily := some 6, extModel := some 125, codename := "Ice Lake",
    technology := "10 nm" },
  { family := some 6, model := some 10, extFamily := some 6, extModel := some 106,
    codename := "Ice Lake-SP (Xeon Scalable)", technology := "10 nm" },
  { family := some 6, model := some 12, extFamily := some 6, extModel := some 108, codename := "Ice Lake-D (Xeon D)",
    technology := "10 nm" },
  { family := some 6, model := some 12, extFamily := some 6, extModel := some 140, codename := "Tiger Lake-U",
    technology := "10 nm SuperFin" },
  { family := some 6, model := some 13, extFamily := some 6, extModel := some 141, codename := "Tiger Lake-H",
    technology := "10 nm SuperFin" },
  -- Hybrid designs
  { family := some 6, model := some 7, extFamily := some 6, extModel := some 151, codename := "Alder Lake-S",
    technology := "Intel 7" },
  { family := some 6, model := some 10, extFamily := some 6, extModel := some 154, codename := "Alder Lake-P",
    technology := "Intel 7" },
  { family := some 6, model := some 14, extFamily := some 6, extModel := some 190, codename := "Alder Lake-N",
    technology := "Intel 7" },
  { family := some 6, model := some 7, extFamily := some 6, extModel := some 183, codename := "Raptor Lake-S",
    technology := "Intel 7" },
  { family := some 6, model := some 10, extFamily := some 6, extModel := some 186, codename := "Raptor Lake-P",
    technology := "Intel 7" },
  { family := some 6, model := some 15, extFamily := some 6, extModel := some 191, codename := "Raptor Lake-S",
    technology := "Intel 7" },
  { family := some 6, model := some 10, extFamily := some 6, extModel := some 170, codename := "Meteor Lake",
    technology := "Intel 4" },
  { family := some 6, model := some 12, extFamily := some 6, extModel := some 172, codename := "Meteor Lake",
    technology := "Intel 4" },
  { family := some 6, model := some 6, extFamily := some 6, extModel := some 198, codename := "Arrow Lake",
    technology := "TSMC N3B" },
  { family := some 6, model := some 13, extFamily := some 6, extModel := some 189, codename := "Lunar Lake",
    technology := "TSMC N3B" },
  -- Recent Xeon
  { family := some 6, model := some 15, extFamily := some 6, extModel := some 143,
    codename := "Sapphire Rapids (Xeon Scalable)", technology := "Intel 7" },
  { family := some 6, model := some 15, extFamily := some 6, extModel := some 207,
    codename := "Emerald Rapids (Xeon Scalable)", technology := "Intel 7" },
  { family := some 6, model := some 13, extFamily := some 6, extModel := some 173, codename := "Granite Rapids (Xeon 6)",
    technology := "Intel 3" },
  { family := some 6, model := some 15, extFamily := some 6, extModel := some 175, codename := "Sierra Forest (Xeon 6)",
    technology := "Intel 3" },
  -- Itanium
  { family := some 7, codename := "Itanium", technology := "180 nm" },
  { family := some 15, extFamily := some 16, codename := "Itanium 2", technology := "130 nm" },
  -- Netburst
  { family := some 15, extFamily := some 15, codename := "Unknown Pentium 4" },
  { family := some 15, extFamily := some 15, brand := some ⟨"Celeron", 2⟩, codename := "Unknown P-4 Celeron" },
  { family := some 15, extFamily := some 15, brand := some ⟨"Xeon", 2⟩, codename := "Unknown Xeon" },
  { family := some 15, model := some 0, extFamily := some 15, extModel := some 0, codename := "Pentium 4 (Willamette)",
    technology := "180 nm" },
  { family := some 15, model := some 1, extFamily := some 15, extModel := some 1, codename := "Pentium 4 (Willamette)",
    technology := "180 nm" },
  { family := some 15, model := some 2, extFamily := some 15, extModel := some 2, codename := "Pentium 4 (Northwood)",
    technology := "130 nm" },
  { family := some 15, model := some 3, extFamily := some 15, extModel := some 3, codename := "Pentium 4 (Prescott)",
    technology := "90 nm" },
  { family := some 15, model := some 4, extFamily := some 15, extModel := some 4, codename := "Pentium 4 (Prescott)",
    technology := "90 nm" },
  { family := some 15, model := some 6, extFamily := some 15, extModel := some 6, codename := "Pentium 4 (Cedar Mill)",
    technology := "65 nm" },
  { family := some 15, model := some 0, extFamily := some 15, extModel := some 0, brand := some ⟨"Xeon", 2⟩,
    codename := "Xeon (Foster)", technology := "180 nm" },
  { family := some 15, model := some 1, extFamily := some 15, extModel := some 1, brand := some ⟨"Xeon", 2⟩,
    codename := "Xeon (Foster)", technology := "180 nm" },
  { family := some 15, model := some 2, extFamily := some 15, extModel := some 2, brand := some ⟨"Xeon", 2⟩,
    codename := "Xeon (Prestonia)", technology := "130 nm" },
  { family := some 15, model := some 2, extFamily := some 15, extModel := some 2, brand := some ⟨"Xeon(TM) MP", 4⟩,
    codename := "Xeon (Gallatin)", technology := "130 nm" },
  { family := some 15, model := some 3, extFamily := some 15, extModel := some 3, brand := some ⟨"Xeon", 2⟩,
    codename := "Xeon (Nocona)", technology := "90 nm" },
  { family := some 15, model := some 4, extFamily := some 15, extModel := some 4, brand := some ⟨"Xeon", 2⟩,
    codename := "Xeon (Nocona)", technology := "90 nm" },
  { family := some 15, model := some 4, extFamily := some 15, extModel := some 4, l2 := some 2048,
    brand := some ⟨"Xeon", 2⟩, codename := "Xeon (Irwindale)", technology := "90 nm" },
  { family := some 15, model := some 4, extFamily := some 15, extModel := some 4, brand := some ⟨"Xeon(TM) MP", 4⟩,
    codename := "Xeon (Cranford)", technology := "90 nm" },
  { family := some 15, model := some 4, extFamily := some 15, extModel := some 4, l3 := some 8192,
    brand := some ⟨"Xeon(TM) MP", 4⟩, codename := "Xeon (Potomac)", technology := "90 nm" },
  { family := some 15, model := some 6, extFamily := some 15, extModel := some 6, brand := some ⟨"Xeon", 2⟩,
    codename := "Xeon 5000", technology := "65 nm" },
  { family := some 15, model := some 4, stepping := some 4, extFamily := some 15, extModel := some 4,
    codename := "Pentium D", technology := "90 nm" },
  { family := some 15, model := some 4, extFamily := some 15, extModel := some 4, brand := some ⟨"Pentium(R) D", 4⟩,
    codename := "Pentium D", technology := "90 nm" },
  { family := some 15, model := some 4, stepping := some 7, extFamily := some 15, extModel := some 4,
    codename := "Pentium D", technology := "90 nm" },
  { family := some 15, model := some 6, extFamily := some 15, extModel := some 6, brand := some ⟨"Pentium(R) D", 4⟩,
    codename := "Pentium D", technology := "65 nm" },
  { family := some 15, model := some 1, extFamily := some 15, extModel := some 1, l2 := some 128,
    brand := some ⟨"Celeron", 2⟩, codename := "P-4 Celeron (128K)", technology := "180 nm" },
  { family := some 15, model := some 2, extFamily := some 15, extModel := some 2, l2 := some 128,
    brand := some ⟨"Celeron", 2⟩, codename := "P-4 Celeron (128K)", technology := "130 nm" },
  { family := some 15, model := some 3, extFamily := some 15, extModel := some 3, brand := some ⟨"Celeron(R) D", 4⟩,
    codename := "Celeron D", technology := "90 nm" },
  { family := some 15, model := some 4, extFamily := some 15, extModel := some 4, brand := some ⟨"Celeron(R) D", 4⟩,
    codename := "Celeron D", technology := "90 nm" },
  { family := some 15, model := some 6, extFamily := some 15, extModel := some 6, brand := some ⟨"Celeron(R) D", 4⟩,
    codename := "Celeron D", technology := "65 nm" }]

end Codename
end CpuIdent
