import CpuIdent.Arm.Level
import CpuIdent.Arm.Part
import CpuIdent.Cache
import CpuIdent.Codename.Amd
import CpuIdent.Codename.Centaur
import CpuIdent.Codename.Intel
import CpuIdent.Enclave
import CpuIdent.Feature.LeafTable
import CpuIdent.Role
import CpuIdent.Topology

/-!
# Identification

From a signature to an identity. Decoding never fails: what the signature does not tell stays unknown.
-/

namespace CpuIdent
namespace Identify

/-! ## x86 -/

/-- The identity with the numbers of leaf 1. AMD counts the extended family only from family 15 on. -/
def withModel (r : Regs) (id : Identity) : Identity :=
  let family : Int := Int.ofNat (Bits.field32 r.eax 11 8).toNat
  let model : Int := Int.ofNat (Bits.field32 r.eax 7 4).toNat
  { id with
    family, model
    stepping := Int.ofNat (Bits.field32 r.eax 3 0).toNat
    extFamily :=
      if id.vendor = .amd ∧ family < 15 then family else family + Int.ofNat (Bits.field32 r.eax 27 20).toNat
    extModel := model + 16 * Int.ofNat (Bits.field32 r.eax 19 16).toNat }

/-- What is decoded alike for every vendor: the texts, the numbers of leaf 1 and the common feature flags. -/
def basic (s : Signature) : Identity :=
  let vendorText := s.vendorString.getD ""
  let id := { Identity.unknown with
    architecture := .x86
    vendorText
    vendor := Vendor.ofSignature vendorText
    brandText := s.brandString.getD "" }
  let id := match s.basicLeaf 1 with
    | some r => withModel r id
    | none => id
  { id with x86Features := LeafTable.addAll LeafTable.common s id.x86Features }

/-- The identity with the counts of cores and the flags that they leave. -/
def withCounts (counts : Topology.Counts × FeatureSet X86Feature) (id : Identity) : Identity :=
  { id with cores := counts.1.cores, logicalCpus := counts.1.logical, x86Features := counts.2 }

/-- The caches of an Intel CPU: by the sub-leaves of leaf 4 if it is supported, else by the descriptor bytes of leaf 2. -/
def intelCaches (s : Signature) (id : Identity) : CacheLevels :=
  if s.maxBasic ≥ 4 then Cache.decodeDeterministic (s.slots .cache) id.caches
  else
    match s.basicLeaf 2 with
    | some r => Cache.decodeDescriptors r id.family id.model id.caches
    | none => id.caches

/-- Completes the identity of an Intel CPU. -/
def intel (s : Signature) (id : Identity) : Identity :=
  let id := { id with x86Features := LeafTable.addAll LeafTable.intel s id.x86Features }
  let id := { id with caches := intelCaches s id }
  let id := withCounts (Topology.decodeIntel s id.x86Features) id
  (Codename.assign Codename.intel { id with
    sseSize := if id.family = 6 ∧ id.extModel ≥ 15 then 128 else 64
    purpose := Purpose.ofIntel s id.x86Features
    enclave := EnclaveInfo.decode? s id.x86Features }).1

/-- The caches of an AMD or Hygon CPU: by the sub-leaves of leaf 0x8000001D if there are any, else by the older leaves. -/
def amdCaches (s : Signature) (id : Identity) : CacheLevels :=
  if id.x86Features.contains .topoext ∧ s.maxExtended ≥ 0x8000001D then
    Cache.decodeDeterministic (s.slots .amdCache) id.caches
  else Cache.decodeAmd s id.caches

/-- Completes the identity of an AMD or Hygon CPU. -/
def amd (s : Signature) (id : Identity) : Identity :=
  let id := { id with x86Features := LeafTable.addAll LeafTable.amd s id.x86Features }
  let id := { id with caches := amdCaches s id }
  let id := withCounts (Topology.decodeAmd s id.extFamily id.x86Features) id
  (Codename.assign (if id.vendor = .hygon then Codename.hygon else Codename.amd) { id with
    sseSize := if id.extFamily ≥ 16 ∧ id.extFamily ≠ 17 then 128 else 64
    purpose := Purpose.ofAmd s }).1

/-- Completes the identity of a Centaur CPU, whose caches and counts are described as those of Intel are. -/
def centaur (s : Signature) (id : Identity) : Identity :=
  let id := { id with
    caches := if s.maxBasic ≥ 4 then Cache.decodeDeterministic (s.slots .cache) id.caches else id.caches }
  let id := withCounts (Topology.decodeIntel s id.x86Features) id
  (Codename.assign Codename.centaur { id with sseSize := 64 }).1

/-- The identity of an x86 CPU. -/
def x86 (s : Signature) : Identity :=
  let id := basic s
  let id := match id.vendor with
    | .intel => intel s id
    | .amd | .hygon => amd s id
    | .centaur => centaur s id
    | _ => id
  { id with level := FeatureLevel.ofX86 id.x86Features }

/-! ## ARM -/

/-- What stands for a name that is not known. -/
def unknownName : String := "unknown"

/-- The identity of an ARM core, by its registers. -/
def arm (regs : ArmRegisters) : Identity :=
  let midr := Midr.ofWord ((regs .midr).getD 0)
  let maker := Implementer.ofCode? midr.implementer
  let part := (maker.bind fun i => i.part? midr.part).getD unknownName
  let found := Finding.all regs
  { Identity.unknown with
    architecture := .arm
    vendor := (maker.map Implementer.vendor).getD .unknown
    vendorText := (maker.map Implementer.name).getD unknownName
    brandText := part
    codename := part
    purpose := Purpose.ofPartName part.toList
    midr := some midr
    armFeatures := Finding.flags found
    level := FeatureLevel.ofArm regs (LevelTally.ofFindings found) }

end Identify

/-- The identity of the CPU that a signature comes from. -/
def Signature.identify (s : Signature) : Identity :=
  match s.architecture with
  | .x86 => Identify.x86 s
  | .arm => Identify.arm s.arm
  | .unknown => .unknown

/-- The names that identification can give to CPUs of a vendor: codenames on x86, part names on ARM. -/
def Vendor.cpuNames : Vendor → List String
  | .intel => Codename.names Codename.intel
  | .amd => Codename.names Codename.amd
  | .hygon => Codename.names Codename.hygon
  | .centaur => Codename.names Codename.centaur
  | v => (Implementer.partNames v).filter (· != Identify.unknownName)

end CpuIdent
