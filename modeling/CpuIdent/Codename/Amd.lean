import CpuIdent.Codename.Basic

/-!
# AMD and Hygon models

The codenames of AMD CPUs, from the 486 on, and those of Hygon.
-/

namespace CpuIdent
namespace Codename

/-- The models of AMD. -/
def amd : List CodenameRow := [
  { codename := "Unknown AMD CPU" },
  -- 486 and K5
  { family := some 4, extFamily := some 4, codename := "Unknown AMD 486" },
  { family := some 4, model := some 3, extFamily := some 4, extModel := some 3, codename := "AMD 486DX2",
    technology := "0.7 um" },
  { family := some 4, model := some 7, extFamily := some 4, extModel := some 7, codename := "AMD 486DX2WB",
    technology := "0.7 um" },
  { family := some 4, model := some 8, extFamily := some 4, extModel := some 8, codename := "AMD 486DX4",
    technology := "0.5 um" },
  { family := some 4, model := some 9, extFamily := some 4, extModel := some 9, codename := "AMD 486DX4WB",
    technology := "0.5 um" },
  { family := some 4, model := some 14, extFamily := some 4, extModel := some 14, codename := "Am5x86",
    technology := "0.35 um" },
  { family := some 4, model := some 15, extFamily := some 4, extModel := some 15, codename := "Am5x86WB",
    technology := "0.35 um" },
  { family := some 5, model := some 0, extFamily := some 5, extModel := some 0, codename := "K5 (SSA/5)",
    technology := "0.35 um" },
  { family := some 5, model := some 1, extFamily := some 5, extModel := some 1, codename := "K5",
    technology := "0.35 um" },
  { family := some 5, model := some 2, extFamily := some 5, extModel := some 2, codename := "K5",
    technology := "0.35 um" },
  { family := some 5, model := some 3, extFamily := some 5, extModel := some 3, codename := "K5",
    technology := "0.35 um" },
  -- K6
  { family := some 5, model := some 6, extFamily := some 5, extModel := some 6, codename := "K6",
    technology := "0.30 um" },
  { family := some 5, model := some 7, extFamily := some 5, extModel := some 7, codename := "K6 (Little Foot)",
    technology := "0.25 um" },
  { family := some 5, model := some 8, extFamily := some 5, extModel := some 8, codename := "K6-2",
    technology := "0.25 um" },
  { family := some 5, model := some 9, extFamily := some 5, extModel := some 9, codename := "K6-III",
    technology := "0.25 um" },
  { family := some 5, model := some 10, extFamily := some 5, extModel := some 10, codename := "Geode LX",
    technology := "0.13 um" },
  { family := some 5, model := some 13, extFamily := some 5, extModel := some 13, codename := "K6-2+",
    technology := "0.18 um" },
  -- K7
  { family := some 6, extFamily := some 6, codename := "Unknown Athlon" },
  { family := some 6, model := some 1, extFamily := some 6, extModel := some 1, brand := some ⟨"Athlon", 2⟩,
    codename := "Athlon (Argon)", technology := "0.25 um" },
  { family := some 6, model := some 2, extFamily := some 6, extModel := some 2, brand := some ⟨"Athlon", 2⟩,
    codename := "Athlon (Pluto)", technology := "0.18 um" },
  { family := some 6, model := some 4, extFamily := some 6, extModel := some 4, brand := some ⟨"Athlon", 2⟩,
    codename := "Athlon (Thunderbird)", technology := "0.18 um" },
  { family := some 6, model := some 3, extFamily := some 6, extModel := some 3, brand := some ⟨"Duron", 2⟩,
    codename := "Duron (Spitfire)", technology := "0.18 um" },
  { family := some 6, model := some 6, extFamily := some 6, extModel := some 6, brand := some ⟨"Athlon(tm) XP", 4⟩,
    codename := "Athlon XP (Palomino)", technology := "0.18 um" },
  { family := some 6, model := some 6, extFamily := some 6, extModel := some 6, brand := some ⟨"Athlon(tm) MP", 4⟩,
    codename := "Athlon MP (Palomino)", technology := "0.18 um" },
  { family := some 6, model := some 7, extFamily := some 6, extModel := some 7, brand := some ⟨"Duron", 2⟩,
    codename := "Duron (Morgan)", technology := "0.18 um" },
  { family := some 6, model := some 8, extFamily := some 6, extModel := some 8, brand := some ⟨"Athlon(tm) XP", 4⟩,
    codename := "Athlon XP (Thoroughbred)", technology := "0.13 um" },
  { family := some 6, model := some 8, extFamily := some 6, extModel := some 8, brand := some ⟨"Sempron", 2⟩,
    codename := "Sempron (Thoroughbred)", technology := "0.13 um" },
  { family := some 6, model := some 10, extFamily := some 6, extModel := some 10, brand := some ⟨"Athlon(tm) XP", 4⟩,
    codename := "Athlon XP (Barton)", technology := "0.13 um" },
  { family := some 6, model := some 10, extFamily := some 6, extModel := some 10, brand := some ⟨"Sempron", 2⟩,
    codename := "Sempron (Barton)", technology := "0.13 um" },
  -- K8
  { family := some 15, extFamily := some 15, codename := "Unknown K8" },
  { family := some 15, extFamily := some 15, brand := some ⟨"Athlon(tm) 64", 4⟩, codename := "Athlon 64",
    technology := "130 nm" },
  { family := some 15, extFamily := some 15, brand := some ⟨"Athlon(tm) 64 X2", 6⟩, codename := "Athlon 64 X2",
    technology := "90 nm" },
  { family := some 15, extFamily := some 15, brand := some ⟨"Athlon(tm) 64 FX", 6⟩, codename := "Athlon 64 FX",
    technology := "90 nm" },
  { family := some 15, extFamily := some 15, brand := some ⟨"Opteron", 4⟩, codename := "Opteron (K8)",
    technology := "90 nm" },
  { family := some 15, extFamily := some 15, brand := some ⟨"Sempron", 4⟩, codename := "Sempron (K8)",
    technology := "90 nm" },
  { family := some 15, extFamily := some 15, brand := some ⟨"Turion", 4⟩, codename := "Turion 64",
    technology := "90 nm" },
  { family := some 15, model := some 4, extFamily := some 15, extModel := some 4, brand := some ⟨"Athlon(tm) 64", 4⟩,
    codename := "Athlon 64 (ClawHammer)", technology := "130 nm" },
  { family := some 15, model := some 15, extFamily := some 15, extModel := some 47, brand := some ⟨"Athlon(tm) 64", 4⟩,
    codename := "Athlon 64 (Venice)", technology := "90 nm" },
  { family := some 15, model := some 11, extFamily := some 15, extModel := some 75,
    brand := some ⟨"Athlon(tm) 64 X2", 6⟩, codename := "Athlon 64 X2 (Windsor)", technology := "90 nm" },
  { family := some 15, model := some 11, extFamily := some 15, extModel := some 107,
    brand := some ⟨"Athlon(tm) 64 X2", 6⟩, codename := "Athlon 64 X2 (Brisbane)", technology := "65 nm" },
  -- K10
  { family := some 15, extFamily := some 16, codename := "Unknown K10", technology := "65 nm" },
  { family := some 15, model := some 2, extFamily := some 16, extModel := some 2, brand := some ⟨"Phenom", 4⟩,
    codename := "Phenom (Agena)", technology := "65 nm" },
  { family := some 15, model := some 2, extFamily := some 16, extModel := some 2, brand := some ⟨"Opteron", 4⟩,
    codename := "Opteron (Barcelona)", technology := "65 nm" },
  { family := some 15, model := some 4, extFamily := some 16, extModel := some 4, brand := some ⟨"Phenom(tm) II X4", 6⟩,
    codename := "Phenom II X4 (Deneb)", technology := "45 nm" },
  { family := some 15, model := some 4, extFamily := some 16, extModel := some 4, brand := some ⟨"Phenom(tm) II X3", 6⟩,
    codename := "Phenom II X3 (Heka)", technology := "45 nm" },
  { family := some 15, model := some 4, extFamily := some 16, extModel := some 4, brand := some ⟨"Opteron", 4⟩,
    codename := "Opteron (Shanghai)", technology := "45 nm" },
  { family := some 15, model := some 5, extFamily := some 16, extModel := some 5, brand := some ⟨"Athlon(tm) II", 4⟩,
    codename := "Athlon II (Propus)", technology := "45 nm" },
  { family := some 15, model := some 6, extFamily := some 16, extModel := some 6, brand := some ⟨"Athlon(tm) II", 4⟩,
    codename := "Athlon II (Regor)", technology := "45 nm" },
  { family := some 15, model := some 8, extFamily := some 16, extModel := some 8, brand := some ⟨"Opteron", 4⟩,
    codename := "Opteron (Istanbul)", technology := "45 nm" },
  { family := some 15, model := some 9, extFamily := some 16, extModel := some 9, brand := some ⟨"Opteron", 4⟩,
    codename := "Opteron (Magny-Cours)", technology := "45 nm" },
  { family := some 15, model := some 10, extFamily := some 16, extModel := some 10,
    brand := some ⟨"Phenom(tm) II X6", 6⟩, codename := "Phenom II X6 (Thuban)", technology := "45 nm" },
  { family := some 15, model := some 3, extFamily := some 17, extModel := some 3, codename := "Turion X2 Ultra (Lion)",
    technology := "65 nm" },
  { family := some 15, model := some 1, extFamily := some 18, extModel := some 1, codename := "Llano",
    technology := "32 nm" },
  { family := some 15, extFamily := some 20, codename := "Bobcat (Ontario/Zacate)", technology := "40 nm" },
  -- Bulldozer family
  { family := some 15, extFamily := some 21, codename := "Unknown Bulldozer", technology := "32 nm" },
  { family := some 15, model := some 1, extFamily := some 21, extModel := some 1, brand := some ⟨"FX(tm)-#1##", 6⟩,
    codename := "Zambezi (Bulldozer)", technology := "32 nm" },
  { family := some 15, model := some 1, extFamily := some 21, extModel := some 1, brand := some ⟨"Opteron", 4⟩,
    codename := "Interlagos (Bulldozer)", technology := "32 nm" },
  { family := some 15, model := some 2, extFamily := some 21, extModel := some 2, brand := some ⟨"FX(tm)-#3##", 6⟩,
    codename := "Vishera (Piledriver)", technology := "32 nm" },
  { family := some 15, model := some 0, extFamily := some 21, extModel := some 16, codename := "Trinity (Piledriver)",
    technology := "32 nm" },
  { family := some 15, model := some 3, extFamily := some 21, extModel := some 19, codename := "Richland (Piledriver)",
    technology := "32 nm" },
  { family := some 15, model := some 0, extFamily := some 21, extModel := some 48, codename := "Kaveri (Steamroller)",
    technology := "28 nm" },
  { family := some 15, model := some 8, extFamily := some 21, extModel := some 56, codename := "Godavari (Steamroller)",
    technology := "28 nm" },
  { family := some 15, model := some 0, extFamily := some 21, extModel := some 96, codename := "Carrizo (Excavator)",
    technology := "28 nm" },
  { family := some 15, model := some 5, extFamily := some 21, extModel := some 101,
    codename := "Bristol Ridge (Excavator)", technology := "28 nm" },
  { family := some 15, model := some 0, extFamily := some 21, extModel := some 112,
    codename := "Stoney Ridge (Excavator)", technology := "28 nm" },
  { family := some 15, model := some 0, extFamily := some 22, extModel := some 0, codename := "Kabini (Jaguar)",
    technology := "28 nm" },
  { family := some 15, model := some 0, extFamily := some 22, extModel := some 48, codename := "Beema (Puma)",
    technology := "28 nm" },
  -- Zen, Zen+ and Zen 2
  { family := some 15, extFamily := some 23, codename := "Unknown Zen" },
  { family := some 15, model := some 1, extFamily := some 23, extModel := some 1, codename := "Summit Ridge",
    technology := "14 nm" },
  { family := some 15, model := some 1, extFamily := some 23, extModel := some 1, brand := some ⟨"Ryzen 7 1###", 8⟩,
    codename := "Ryzen 7 (Summit Ridge)", technology := "14 nm" },
  { family := some 15, model := some 1, extFamily := some 23, extModel := some 1, brand := some ⟨"Ryzen 5 1###", 8⟩,
    codename := "Ryzen 5 (Summit Ridge)", technology := "14 nm" },
  { family := some 15, model := some 1, extFamily := some 23, extModel := some 1, brand := some ⟨"Ryzen 3 1###", 8⟩,
    codename := "Ryzen 3 (Summit Ridge)", technology := "14 nm" },
  { family := some 15, model := some 1, extFamily := some 23, extModel := some 1, brand := some ⟨"Threadripper 19##", 8⟩,
    codename := "Threadripper (Whitehaven)", technology := "14 nm" },
  { family := some 15, model := some 1, extFamily := some 23, extModel := some 1, brand := some ⟨"EPYC 7##1", 8⟩,
    codename := "EPYC (Naples)", technology := "14 nm" },
  { family := some 15, model := some 8, extFamily := some 23, extModel := some 8, codename := "Pinnacle Ridge",
    technology := "12 nm" },
  { family := some 15, model := some 8, extFamily := some 23, extModel := some 8, brand := some ⟨"Ryzen 7 2###", 8⟩,
    codename := "Ryzen 7 (Pinnacle Ridge)", technology := "12 nm" },
  { family := some 15, model := some 8, extFamily := some 23, extModel := some 8, brand := some ⟨"Ryzen 5 2###", 8⟩,
    codename := "Ryzen 5 (Pinnacle Ridge)", technology := "12 nm" },
  { family := some 15, model := some 8, extFamily := some 23, extModel := some 8, brand := some ⟨"Threadripper 29##", 8⟩,
    codename := "Threadripper (Colfax)", technology := "12 nm" },
  { family := some 15, model := some 1, extFamily := some 23, extModel := some 17, codename := "Raven Ridge",
    technology := "14 nm" },
  { family := some 15, model := some 8, extFamily := some 23, extModel := some 24, codename := "Picasso",
    technology := "12 nm" },
  { family := some 15, model := some 0, extFamily := some 23, extModel := some 32, codename := "Dali",
    technology := "14 nm" },
  { family := some 15, model := some 1, extFamily := some 23, extModel := some 49, codename := "Castle Peak",
    technology := "7 nm" },
  { family := some 15, model := some 1, extFamily := some 23, extModel := some 49, brand := some ⟨"EPYC 7##2", 8⟩,
    codename := "EPYC (Rome)", technology := "7 nm" },
  { family := some 15, model := some 0, extFamily := some 23, extModel := some 96, codename := "Renoir",
    technology := "7 nm" },
  { family := some 15, model := some 8, extFamily := some 23, extModel := some 104, codename := "Lucienne",
    technology := "7 nm" },
  { family := some 15, model := some 1, extFamily := some 23, extModel := some 113, codename := "Matisse",
    technology := "7 nm" },
  { family := some 15, model := some 1, extFamily := some 23, extModel := some 113, brand := some ⟨"Ryzen 9 3###", 8⟩,
    codename := "Ryzen 9 (Matisse)", technology := "7 nm" },
  { family := some 15, model := some 1, extFamily := some 23, extModel := some 113, brand := some ⟨"Ryzen 7 3###", 8⟩,
    codename := "Ryzen 7 (Matisse)", technology := "7 nm" },
  { family := some 15, model := some 1, extFamily := some 23, extModel := some 113, brand := some ⟨"Ryzen 5 3###", 8⟩,
    codename := "Ryzen 5 (Matisse)", technology := "7 nm" },
  { family := some 15, model := some 0, extFamily := some 23, extModel := some 144, codename := "Van Gogh",
    technology := "7 nm" },
  { family := some 15, model := some 0, extFamily := some 23, extModel := some 160, codename := "Mendocino",
    technology := "6 nm" },
  -- Zen 3 and Zen 4
  { family := some 15, extFamily := some 25, codename := "Unknown Zen 3/4" },
  { family := some 15, model := some 1, extFamily := some 25, extModel := some 1, codename := "Milan",
    technology := "7 nm" },
  { family := some 15, model := some 1, extFamily := some 25, extModel := some 1, brand := some ⟨"EPYC 7##3", 8⟩,
    codename := "EPYC (Milan)", technology := "7 nm" },
  { family := some 15, model := some 8, extFamily := some 25, extModel := some 8, codename := "Chagall",
    technology := "7 nm" },
  { family := some 15, model := some 1, extFamily := some 25, extModel := some 17, codename := "Genoa",
    technology := "5 nm" },
  { family := some 15, model := some 1, extFamily := some 25, extModel := some 17, brand := some ⟨"EPYC 9##4", 8⟩,
    codename := "EPYC (Genoa)", technology := "5 nm" },
  { family := some 15, model := some 0, extFamily := some 25, extModel := some 33, codename := "Vermeer",
    technology := "7 nm" },
  { family := some 15, model := some 0, extFamily := some 25, extModel := some 33, brand := some ⟨"Ryzen 9 5###", 8⟩,
    codename := "Ryzen 9 (Vermeer)", technology := "7 nm" },
  { family := some 15, model := some 0, extFamily := some 25, extModel := some 33, brand := some ⟨"Ryzen 7 5###", 8⟩,
    codename := "Ryzen 7 (Vermeer)", technology := "7 nm" },
  { family := some 15, model := some 0, extFamily := some 25, extModel := some 33, brand := some ⟨"Ryzen 5 5###", 8⟩,
    codename := "Ryzen 5 (Vermeer)", technology := "7 nm" },
  { family := some 15, model := some 4, extFamily := some 25, extModel := some 68, codename := "Rembrandt",
    technology := "6 nm" },
  { family := some 15, model := some 0, extFamily := some 25, extModel := some 80, codename := "Cezanne",
    technology := "7 nm" },
  { family := some 15, model := some 1, extFamily := some 25, extModel := some 97, codename := "Raphael",
    technology := "5 nm" },
  { family := some 15, model := some 1, extFamily := some 25, extModel := some 97, brand := some ⟨"Ryzen 9 7###", 8⟩,
    codename := "Ryzen 9 (Raphael)", technology := "5 nm" },
  { family := some 15, model := some 1, extFamily := some 25, extModel := some 97, brand := some ⟨"Ryzen 7 7###", 8⟩,
    codename := "Ryzen 7 (Raphael)", technology := "5 nm" },
  { family := some 15, model := some 4, extFamily := some 25, extModel := some 116, codename := "Phoenix",
    technology := "4 nm" },
  { family := some 15, model := some 8, extFamily := some 25, extModel := some 120, codename := "Phoenix 2",
    technology := "4 nm" },
  { family := some 15, model := some 0, extFamily := some 25, extModel := some 160, codename := "Bergamo",
    technology := "5 nm" },
  -- Zen 5
  { family := some 15, extFamily := some 26, codename := "Unknown Zen 5" },
  { family := some 15, model := some 2, extFamily := some 26, extModel := some 2, codename := "Strix Point",
    technology := "4 nm" },
  { family := some 15, model := some 4, extFamily := some 26, extModel := some 68, codename := "Granite Ridge",
    technology := "4 nm" },
  { family := some 15, model := some 4, extFamily := some 26, extModel := some 68, brand := some ⟨"Ryzen 9 9###", 8⟩,
    codename := "Ryzen 9 (Granite Ridge)", technology := "4 nm" },
  { family := some 15, model := some 2, extFamily := some 26, extModel := some 2, brand := some ⟨"EPYC 9##5", 8⟩,
    codename := "EPYC (Turin)", technology := "4 nm" }]

/-- The models of Hygon. -/
def hygon : List CodenameRow := [
  { codename := "Unknown Hygon CPU" },
  { family := some 15, model := some 0, extFamily := some 24, extModel := some 0, codename := "Dhyana",
    technology := "14 nm" },
  { family := some 15, model := some 0, extFamily := some 24, extModel := some 0, brand := some ⟨"C86 3###", 8⟩,
    codename := "Hygon C86 (Dhyana)", technology := "14 nm" },
  { family := some 15, model := some 0, extFamily := some 24, extModel := some 0, brand := some ⟨"C86 7###", 8⟩,
    codename := "Hygon C86 7000 (Dhyana)", technology := "14 nm" },
  { family := some 15, model := some 4, extFamily := some 24, extModel := some 4, codename := "Dhyana+",
    technology := "14 nm" }]

end Codename
end CpuIdent
