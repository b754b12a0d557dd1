import CpuIdent.Text.Cut

/-!
# Vendors

The makers of x86 CPUs, known by the twelve bytes of leaf 0, and the implementers of ARM cores.
-/

namespace CpuIdent

/-- Who made a CPU. -/
inductive Vendor where
  | intel | amd | cyrix | nexGen | transmeta | umc | centaur | rise | sis | nsc | hygon
  | arm | broadcom | cavium | dec | fujitsu | hisilicon | infineon | freescale | nvidia | apm | qualcomm | samsung | marvell
  | apple | faraday | microsoft | phytium | ampere
  | unknown
  deriving DecidableEq, Repr

namespace Vendor

/-- Every vendor. -/
def all : List Vendor :=
  [intel, amd, cyrix, nexGen, transmeta, umc, centaur, rise, sis, nsc, hygon, arm, broadcom, cavium, dec, fujitsu, hisilicon,
    infineon, freescale, nvidia, apm, qualcomm, samsung, marvell, apple, faraday, microsoft, phytium, ampere, unknown]

/-- The lower-case name of a vendor. -/
def name : Vendor → String
  | intel => "intel"
  | amd => "amd"
  | cyrix => "cyrix"
  | nexGen => "nexgen"
  | transmeta => "transmeta"
  | umc => "umc"
  | centaur => "centaur"
  | rise => "rise"
  | sis => "sis"
  | nsc => "nsc"
  | hygon => "hygon"
  | arm => "arm"
  | broadcom => "broadcom"
  | cavium => "cavium"
  | dec => "dec"
  | fujitsu => "fujitsu"
  | hisilicon => "hisilicon"
  | infineon => "infineon"
  | freescale => "freescale"
  | nvidia => "nvidia"
  | apm => "apm"
  | qualcomm => "qualcomm"
  | samsung => "samsung"
  | marvell => "marvell"
  | apple => "apple"
  | faraday => "faraday"
  | microsoft => "microsoft"
  | phytium => "phytium"
  | ampere => "ampere"
  | unknown => "unknown"

/-- The vendor with this name, in any ASCII case. -/
def ofName? (name : String) : Option Vendor :=
  let wanted := String.ofList (Text.lower name.toList)
  all.find? fun v => v.name == wanted

/-- The strings that leaf 0 of an x86 CPU may hold, each with the vendor that registered it. -/
def signatures : List (String × Vendor) :=
  [("GenuineIntel", intel), ("AuthenticAMD", amd), ("CyrixInstead", cyrix), ("NexGenDriven", nexGen),
    ("GenuineTMx86", transmeta), ("UMC UMC UMC ", umc), ("CentaurHauls", centaur), ("  Shanghai  ", centaur),
    ("RiseRiseRise", rise), ("SiS SiS SiS ", sis), ("Geode by NSC", nsc), ("HygonGenuine", hygon)]

/-- The vendor that registered a leaf-0 string. -/
def ofSignature (text : String) : Vendor :=
  ((signatures.find? fun row => row.1 == text).map Prod.snd).getD unknown

end Vendor
end CpuIdent
