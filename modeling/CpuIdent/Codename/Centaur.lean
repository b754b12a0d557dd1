import CpuIdent.Codename.Basic

/-!
# VIA and Zhaoxin models

The codenames of the CPUs that report Centaur or Zhaoxin as their vendor.
-/

namespace CpuIdent
namespace Codename

/-- The models of VIA and Zhaoxin. -/
def centaur : List CodenameRow := [
  { codename := "Unknown Centaur CPU" },
  -- VIA
  { family := some 6, brand := some ⟨"VIA", 2⟩, codename := "Unknown VIA CPU" },
  { family := some 6, model := some 6, brand := some ⟨"VIA Samuel", 4⟩, codename := "VIA Cyrix III (Samuel)",
    technology := "180 nm" },
  { family := some 6, model := some 7, brand := some ⟨"VIA Samuel 2", 6⟩, codename := "VIA C3 (Samuel 2)",
    technology := "150 nm" },
  { family := some 6, model := some 7, brand := some ⟨"VIA Ezra", 4⟩, codename := "VIA C3 (Ezra)",
    technology := "130 nm" },
  { family := some 6, model := some 8, brand := some ⟨"VIA C3 Ezra", 6⟩, codename := "VIA C3 (Ezra-T)",
    technology := "130 nm" },
  { family := some 6, model := some 9, brand := some ⟨"VIA Nehemiah", 4⟩, codename := "VIA C3 (Nehemiah)",
    technology := "130 nm" },
  { family := some 6, model := some 10, brand := some ⟨"VIA Esther", 4⟩, codename := "VIA C7 (Esther)",
    technology := "90 nm" },
  { family := some 6, model := some 13, brand := some ⟨"VIA C7-M", 4⟩, codename := "VIA C7-M (Esther)",
    technology := "90 nm" },
  { family := some 6, model := some 15, brand := some ⟨"VIA Nano", 4⟩, codename := "VIA Nano (Isaiah)",
    technology := "65 nm" },
  { family := some 6, model := some 15, cores := some 1, brand := some ⟨"VIA Nano", 4⟩, codename := "VIA Nano (Isaiah)",
    technology := "65 nm" },
  { family := some 6, model := some 15, cores := some 2, brand := some ⟨"VIA Nano", 4⟩,
    codename := "VIA Nano X2 (Isaiah)", technology := "40 nm" },
  { family := some 6, model := some 15, brand := some ⟨"VIA QuadCore", 4⟩, codename := "VIA Nano X4 (Isaiah)",
    technology := "40 nm" },
  { family := some 6, model := some 15, cores := some 4, brand := some ⟨"VIA Eden X4", 6⟩,
    codename := "VIA Eden X4 (Isaiah)", technology := "28 nm" },
  -- Zhaoxin
  { family := some 7, brand := some ⟨"ZHAOXIN", 2⟩, codename := "Unknown Zhaoxin CPU" },
  { family := some 7, extModel := some 15, brand := some ⟨"ZHAOXIN KaisHeng KH-C", 8⟩,
    codename := "Zhaoxin KaisHeng (ZhangJiang)", technology := "28 nm" },
  { family := some 7, extModel := some 15, brand := some ⟨"ZHAOXIN KaiXian ZX-C", 8⟩,
    codename := "Zhaoxin KaiXian (ZhangJiang)", technology := "28 nm" },
  { family := some 7, extModel := some 27, brand := some ⟨"ZHAOXIN KaisHeng KH-20###", 8⟩,
    codename := "Zhaoxin KaisHeng (WuDaoKou)", technology := "28 nm" },
  { family := some 7, extModel := some 27, brand := some ⟨"ZHAOXIN KaiXian KX-5###", 8⟩,
    codename := "Zhaoxin KaiXian (WuDaoKou)", technology := "28 nm" },
  { family := some 7, extModel := some 27, brand := some ⟨"ZHAOXIN KaiXian KX-U5###", 8⟩,
    codename := "Zhaoxin KaiXian (WuDaoKou)", technology := "28 nm" },
  { family := some 7, extModel := some 59, brand := some ⟨"ZHAOXIN KaisHeng KH-30###", 8⟩,
    codename := "Zhaoxin KaisHeng (LuJiaZui)", technology := "16 nm" },
  { family := some 7, extModel := some 59, brand := some ⟨"ZHAOXIN KaiXian KX-6###", 8⟩,
    codename := "Zhaoxin KaiXian (LuJiaZui)", technology := "16 nm" },
  { family := some 7, extModel := some 59, brand := some ⟨"ZHAOXIN KaiXian KX-U6###", 8⟩,
    codename := "Zhaoxin KaiXian (LuJiaZui)", technology := "16 nm" },
  { family := some 7, extModel := some 91, brand := some ⟨"ZHAOXIN KaisHeng KH-40###", 8⟩,
    codename := "Zhaoxin KaisHeng (Yongfeng)", technology := "16 nm" },
  { family := some 7, extModel := some 91, brand := some ⟨"ZHAOXIN KaiXian KX-7###", 8⟩,
    codename := "Zhaoxin KaiXian (Yongfeng)", technology := "16 nm" }]

end Codename
end CpuIdent
