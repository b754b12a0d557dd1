import CpuIdent.Feature.Arm
import CpuIdent.Feature.Level
import CpuIdent.Feature.X86
import CpuIdent.Signature.Basic
import CpuIdent.Vendor

/-!
# Identities

What is decoded from a signature. Numbers that could not be determined are -1, texts are empty.
-/

namespace CpuIdent

/-- The role of a core among cores of different kinds. -/
inductive Purpose where
  | general | performance | efficiency | ultraPerformance
  deriving DecidableEq, Repr, Inhabited

/-- The name of a role. -/
def Purpose.name : Purpose → String
  | general => "general"
  | performance => "performance"
  | efficiency => "efficiency"
  | ultraPerformance => "ultra-performance"

/-- One cache. -/
structure CacheInfo where
  sizeKb : Int
  associativity : Int
  lineSize : Int
  deriving DecidableEq, Repr

/-- A cache of which nothing is known. -/
def CacheInfo.unknown : CacheInfo := ⟨-1, -1, -1⟩

instance : Inhabited CacheInfo := ⟨.unknown⟩

/-- A cache that can be described. -/
inductive CacheSlot where
  | l1Data | l1Instruction | l2 | l3 | l4
  deriving DecidableEq, Repr

/-- The name of a cache. -/
def CacheSlot.name : CacheSlot → String
  | l1Data => "L1Data"
  | l1Instruction => "L1Instruction"
  | l2 => "L2"
  | l3 => "L3"
  | l4 => "L4"

/-- The caches of a core. -/
structure CacheLevels where
  l1Data : CacheInfo
  l1Instruction : CacheInfo
  l2 : CacheInfo
  l3 : CacheInfo
  l4 : CacheInfo
  deriving DecidableEq, Repr

namespace CacheLevels

/-- Caches of which nothing is known. -/
def unknown : CacheLevels := ⟨.unknown, .unknown, .unknown, .unknown, .unknown⟩

instance : Inhabited CacheLevels := ⟨unknown⟩

/-- The cache in a slot. -/
def get (c : CacheLevels) : CacheSlot → CacheInfo
  | .l1Data => c.l1Data
  | .l1Instruction => c.l1Instruction
  | .l2 => c.l2
  | .l3 => c.l3
  | .l4 => c.l4

/-- The caches with one slot replaced. -/
def set (c : CacheLevels) (slot : CacheSlot) (info : CacheInfo) : CacheLevels :=
  match slot with
  | .l1Data => { c with l1Data := info }
  | .l1Instruction => { c with l1Instruction := info }
  | .l2 => { c with l2 := info }
  | .l3 => { c with l3 := info }
  | .l4 => { c with l4 := info }

/-- What is put into a slot is found there, and nowhere else. -/
@[simp] theorem get_set (c : CacheLevels) (slot slot' : CacheSlot) (info : CacheInfo) :
    (c.set slot info).get slot' = if slot' = slot then info else c.get slot' := by
  cases slot <;> cases slot' <;> rfl

/-- Caches that agree in every slot are the same. -/
theorem ext_get {c c' : CacheLevels} (h : ∀ slot, c.get slot = c'.get slot) : c = c' := by
  obtain ⟨l1Data, l1Instruction, l2, l3, l4⟩ := c
  obtain rfl : l1Data = c'.l1Data := h .l1Data
  obtain rfl : l1Instruction = c'.l1Instruction := h .l1Instruction
  obtain rfl : l2 = c'.l2 := h .l2
  obtain rfl : l3 = c'.l3 := h .l3
  obtain rfl : l4 = c'.l4 := h .l4
  rfl

/-- After a run of steps a slot holds what the last step that states something for it states. -/
theorem get_foldl {α : Type} {step : CacheLevels → α → CacheLevels} {stated : α → Option CacheInfo} {slot : CacheSlot}
    (hstep : ∀ c a, (step c a).get slot = (stated a).getD (c.get slot)) (as : List α) (c : CacheLevels) :
    (as.foldl step c).get slot = ((as.filterMap stated).getLast?).getD (c.get slot) := by
  induction as generalizing c with
  | nil => rfl
  | cons a as ih =>
    rw [List.foldl_cons, ih, hstep]
    cases hstated : stated a with
    | none => rw [List.filterMap_cons_none hstated, Option.getD_none]
    | some info => rw [List.filterMap_cons_some hstated, List.getLast?_cons, Option.getD_some, Option.getD_some]

end CacheLevels

/-- The fields of an ARM main identification register. -/
structure Midr where
  implementer : Nat
  variant : Nat
  architecture : Nat
  part : Nat
  revision : Nat
  deriving DecidableEq, Repr

/-- The fields of the main identification register. -/
def Midr.ofWord (w : UInt64) : Midr where
  implementer := (Bits.field w 31 24).toNat
  variant := (Bits.field w 23 20).toNat
  architecture := (Bits.field w 19 16).toNat
  part := (Bits.field w 15 4).toNat
  revision := (Bits.field w 3 0).toNat

/-- What a CPU says about enclaves. -/
structure EnclaveInfo where
  present : Bool
  sgx1 : Bool
  sgx2 : Bool
  /-- The exponent of the largest enclave size outside 64-bit mode. -/
  maxSize32 : Nat
  /-- The exponent of the largest enclave size in 64-bit mode. -/
  maxSize64 : Nat
  miscSelect : Nat
  deriving DecidableEq, Repr

/-- Everything decoded of one CPU. -/
structure Identity where
  architecture : Architecture
  vendor : Vendor
  /-- The vendor string of an x86 CPU, the implementer's name of an ARM core. -/
  vendorText : String
  /-- The brand string of an x86 CPU, the part name of an ARM core. -/
  brandText : String
  family : Int
  model : Int
  stepping : Int
  extFamily : Int
  extModel : Int
  codename : String
  technology : String
  x86Features : FeatureSet X86Feature
  armFeatures : FeatureSet ArmFeature
  level : FeatureLevel
  caches : CacheLevels
  cores : Int
  logicalCpus : Int
  /-- The logical CPUs of the whole machine, which no signature tells. -/
  totalLogicalCpus : Int
  /-- The width of the SSE units in bits. -/
  sseSize : Int
  purpose : Purpose
  midr : Option Midr
  enclave : Option EnclaveInfo
  /-- The score of the row that gave the codename. -/
  matchScore : Int
  deriving DecidableEq

namespace Identity

/-- The identity of a CPU of which nothing is known. -/
def unknown : Identity where
  architecture := .unknown
  vendor := .unknown
  vendorText := ""
  brandText := ""
  family := -1
  model := -1
  stepping := -1
  extFamily := -1
  extModel := -1
  codename := ""
  technology := ""
  x86Features := .empty
  armFeatures := .empty
  level := .unknown
  caches := .unknown
  cores := -1
  logicalCpus := -1
  totalLogicalCpus := -1
  sseSize := -1
  purpose := .general
  midr := none
  enclave := none
  matchScore := -1

instance : Inhabited Identity := ⟨unknown⟩

/-- The names of all feature flags, those of x86 first. -/
def featureNames (id : Identity) : List String := id.x86Features.names ++ id.armFeatures.names

end Identity
end CpuIdent
