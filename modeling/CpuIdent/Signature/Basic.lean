import CpuIdent.Signature.ArmRegister
import CpuIdent.Text.Blank
import CpuIdent.Text.Utf8

/-!
# Signatures

What one logical CPU says of itself: the answers of the CPUID instruction on x86, the identification registers on ARM. Every slot
may be unknown, which is not the same as reading zero. A leaf is readable only if the CPU reports it as supported, that is, up to
the maximum stated in leaf 0 of its range. A field of a register is the run of bits from `high` down to `low`.
-/

namespace CpuIdent
namespace Bits

/-- The bits `high` down to `low` of a 64-bit word, moved to the bottom. -/
def field (value : UInt64) (high low : Nat) : UInt64 :=
  let shifted := value >>> UInt64.ofNat low
  let width := high - low + 1
  if width ≥ 64 then shifted else shifted &&& ((1 <<< UInt64.ofNat width) - 1)

/-- The bits `high` down to `low` of a 32-bit word, moved to the bottom. -/
def field32 (value : UInt32) (high low : Nat) : UInt32 := (field value.toUInt64 high low).toUInt32

/-- Whether bit `index` of a 32-bit word is set. -/
def bit (value : UInt32) (index : Nat) : Bool := (value >>> UInt32.ofNat index) &&& 1 == 1

/-- The four bytes of a word, lowest first. -/
def bytes (value : UInt32) : List UInt8 :=
  [value.toUInt8, (value >>> 8).toUInt8, (value >>> 16).toUInt8, (value >>> 24).toUInt8]

end Bits

/-- The four registers that one CPUID invocation fills. -/
structure Regs where
  eax : UInt32
  ebx : UInt32
  ecx : UInt32
  edx : UInt32
  deriving DecidableEq, Repr, Inhabited

namespace Regs

/-- The registers in the order in which they are printed. -/
def toList (r : Regs) : List UInt32 := [r.eax, r.ebx, r.ecx, r.edx]

/-- Whether all four registers are zero. -/
def isZero (r : Regs) : Bool := r == ⟨0, 0, 0, 0⟩

end Regs

/-- One of the four registers. -/
inductive RegName where
  | eax | ebx | ecx | edx
  deriving DecidableEq, Repr

/-- The value of the named register. -/
def RegName.of : RegName → Regs → UInt32
  | .eax, r => r.eax
  | .ebx, r => r.ebx
  | .ecx, r => r.ecx
  | .edx, r => r.edx

/-- The families of x86 slots: the basic and the extended leaves, and the sub-leaves of the leaves that have any. -/
inductive Group where
  | basic
  | extended
  /-- Sub-leaves of leaf 4: deterministic caches. -/
  | cache
  /-- Sub-leaves of leaf 0x0B: extended topology. -/
  | topology
  /-- Sub-leaves of leaf 0x12: enclaves. -/
  | enclave
  /-- Sub-leaves of leaf 0x14: processor trace. -/
  | trace
  /-- Sub-leaves of leaf 0x8000001D: deterministic caches of AMD. -/
  | amdCache
  /-- Sub-leaves of leaf 0x80000026: extended topology of AMD. -/
  | amdTopology
  deriving DecidableEq, Repr

namespace Group

/-- Every group, in the order of a snapshot. -/
def all : List Group := [basic, extended, cache, topology, enclave, trace, amdCache, amdTopology]

/-- How many slots a group has. -/
def size : Group → Nat
  | basic | extended => 32
  | cache => 8
  | topology | enclave | trace | amdCache | amdTopology => 4

/-- The name of a group in a snapshot. -/
def key : Group → String
  | basic => "basic_cpuid"
  | extended => "ext_cpuid"
  | cache => "intel_fn4"
  | topology => "intel_fn11"
  | enclave => "intel_fn12h"
  | trace => "intel_fn14h"
  | amdCache => "amd_fn8000001dh"
  | amdTopology => "amd_fn80000026h"

/-- The group with this name. -/
def ofKey? (name : List Char) : Option Group := all.find? fun g => g.key.toList = name

/-- The group that holds the sub-leaves of a leaf. -/
def ofLeaf? (leaf : UInt32) : Option Group :=
  if leaf = 0x04 then some cache
  else if leaf = 0x0B then some topology
  else if leaf = 0x12 then some enclave
  else if leaf = 0x14 then some trace
  else if leaf = 0x8000001D then some amdCache
  else if leaf = 0x80000026 then some amdTopology
  else none

end Group

/-- A place for four registers: a group and an index in it. -/
structure Slot where
  group : Group
  index : Fin group.size
  deriving DecidableEq

/-- The slot of a group at an index, if the group has it. -/
def Group.slot? (g : Group) (i : Nat) : Option Slot := if h : i < g.size then some ⟨g, ⟨i, h⟩⟩ else none

/-- The slots of a group, in order. -/
def Group.slots (g : Group) : List Slot := (List.finRange g.size).map (Slot.mk g)

/-- The slots of all groups, in the order of a snapshot. -/
def Slot.all : List Slot := Group.all.flatMap Group.slots

/-- The architecture that a signature belongs to. -/
inductive Architecture where
  | x86 | arm | unknown
  deriving DecidableEq, Repr, Inhabited

namespace Architecture

/-- The name of an architecture in identities. -/
def name : Architecture → String
  | x86 => "x86"
  | arm => "arm"
  | unknown => "unknown"

/-- The name of an architecture in messages. -/
def title : Architecture → String
  | x86 => "x86"
  | arm => "ARM"
  | unknown => "unknown"

end Architecture

/-- The identification registers of an ARM core, as far as they are known. -/
abbrev ArmRegisters := ArmRegister → Option UInt64

/-- What is known of one logical CPU. -/
@[ext] structure Signature where
  /-- The x86 slots. -/
  x86 : Slot → Option Regs
  /-- The ARM registers. -/
  arm : ArmRegisters

/-- The number of the first extended leaf. -/
def extendedBase : UInt32 := 0x80000000

/-- Whether some register that exists only in AArch64 is known. -/
def ArmRegisters.hasAarch64View (arm : ArmRegisters) : Bool :=
  ArmRegister.all.any fun r => r.isAarch64Only && (arm r).isSome

namespace Signature

/-- The signature in which nothing is known. -/
def empty : Signature := ⟨fun _ => none, fun _ => none⟩

instance : Inhabited Signature := ⟨empty⟩

/-! ## Writing -/

/-- The signature with one x86 slot replaced. -/
def setSlot (s : Signature) (slot : Slot) (value : Option Regs) : Signature :=
  { s with x86 := fun t => if t = slot then value else s.x86 t }

/-- The signature with the slot of a group at an index replaced, or unchanged if the group has no such slot. -/
def setAt (s : Signature) (g : Group) (i : Nat) (value : Option Regs) : Signature :=
  match g.slot? i with
  | some slot => s.setSlot slot value
  | none => s

/-- The signature with a basic leaf stored. -/
def setBasic (s : Signature) (leaf : UInt32) (regs : Regs) : Signature := s.setAt .basic leaf.toNat (some regs)

/-- The signature with an extended leaf stored; a leaf below the first extended one wraps round and lands past the last. -/
def setExtended (s : Signature) (leaf : UInt32) (regs : Regs) : Signature :=
  s.setAt .extended (leaf - extendedBase).toNat (some regs)

/-- The signature with one ARM register replaced. -/
def setArm (s : Signature) (r : ArmRegister) (value : Option UInt64) : Signature :=
  { s with arm := fun q => if q = r then value else s.arm q }

/-! ## Reading -/

/-- The slot of a group at an index, unknown if the group has no such slot. -/
def getAt (s : Signature) (g : Group) (i : Nat) : Option Regs := (g.slot? i).bind s.x86

/-- The slots of a group, in order. -/
def slots (s : Signature) (g : Group) : List (Option Regs) := g.slots.map s.x86

/-- The highest supported basic leaf, zero if leaf 0 is unknown. -/
def maxBasic (s : Signature) : UInt32 := ((s.getAt .basic 0).map Regs.eax).getD 0

/-- The highest supported extended leaf, zero if the first one is unknown. -/
def maxExtended (s : Signature) : UInt32 := ((s.getAt .extended 0).map Regs.eax).getD 0

/-- A basic leaf, if it is supported and known. -/
def basicLeaf (s : Signature) (leaf : UInt32) : Option Regs :=
  if leaf ≤ s.maxBasic then s.getAt .basic leaf.toNat else none

/-- An extended leaf by its full number, if it is supported and known. -/
def extendedLeaf (s : Signature) (leaf : UInt32) : Option Regs :=
  if extendedBase ≤ leaf ∧ leaf ≤ s.maxExtended then s.getAt .extended (leaf - extendedBase).toNat else none

/-- A leaf by its full number, in whichever range it lies. -/
def leaf (s : Signature) (number : UInt32) : Option Regs :=
  if extendedBase ≤ number then s.extendedLeaf number else s.basicLeaf number

/-- The architecture: x86 if leaf 0 is known and not all zero, else ARM if the main identification register is known and not
zero. -/
def architecture (s : Signature) : Architecture :=
  if (s.getAt .basic 0).any fun r => !r.isZero then .x86
  else if (s.arm .midr).any (· != 0) then .arm
  else .unknown

/-- The twelve bytes of the vendor, in EBX, EDX and ECX of leaf 0. -/
def vendorBytes (r : Regs) : List UInt8 := [r.ebx, r.edx, r.ecx].flatMap Bits.bytes

/-- The vendor string, if leaf 0 is known. -/
def vendorString (s : Signature) : Option String :=
  (s.getAt .basic 0).map fun r => String.ofList (Text.decodeUtf8 (vendorBytes r))

/-- The bytes of the brand, in three extended leaves, if all of them are supported and known. -/
def brandBytes (s : Signature) : Option (List UInt8) := do
  let a ← s.extendedLeaf (extendedBase + 2)
  let b ← s.extendedLeaf (extendedBase + 3)
  let c ← s.extendedLeaf (extendedBase + 4)
  some ([a, b, c].flatMap fun r => r.toList.flatMap Bits.bytes)

/-- The brand string: the text before the first zero byte, without the blanks at its start. -/
def brandString (s : Signature) : Option String :=
  s.brandBytes.map fun bytes => String.ofList (Text.trimStart (Text.decodeUtf8 (bytes.takeWhile (· != 0))))

/-- Whether two signatures agree on every slot and register. -/
def agrees (s t : Signature) : Bool :=
  Slot.all.all (fun slot => s.x86 slot == t.x86 slot) && ArmRegister.all.all fun r => s.arm r == t.arm r

end Signature

/-! ## Small facts -/

namespace Group

/-- A group has the slots that are its own. -/
theorem slot?_eq_some_iff {g : Group} {i : Nat} {slot : Slot} :
    g.slot? i = some slot ↔ slot.group = g ∧ slot.index.val = i := by
  unfold slot?
  split
  · rename_i h
    rw [Option.some.injEq]
    constructor
    · rintro rfl
      exact ⟨rfl, rfl⟩
    · rintro ⟨rfl, rfl⟩
      rfl
  · rename_i h
    constructor
    · intro h'
      cases h'
    · rintro ⟨rfl, rfl⟩
      exact absurd slot.index.isLt h

/-- There is no slot past the size of a group. -/
theorem slot?_eq_none_iff {g : Group} {i : Nat} : g.slot? i = none ↔ g.size ≤ i := by
  unfold slot?
  split
  · rename_i h
    simp [Nat.not_le.2 h]
  · rename_i h
    simp [Nat.not_lt.1 h]

end Group

namespace Signature

/-- A write to a slot of a group reaches that slot and no other. -/
theorem x86_setAt (s : Signature) (slot : Slot) (g : Group) (i : Nat) (value : Option Regs) :
    (s.setAt g i value).x86 slot = if slot.group = g ∧ slot.index.val = i then value else s.x86 slot := by
  simp only [setAt, ← Group.slot?_eq_some_iff]
  cases h : g.slot? i with
  | none => rfl
  | some place => simp only [setSlot, Option.some.injEq, eq_comm]

/-- Setting a slot of x86 leaves the ARM registers. -/
@[simp] theorem arm_setAt (s : Signature) (g : Group) (i : Nat) (value : Option Regs) : (s.setAt g i value).arm = s.arm := by
  unfold setAt
  split <;> rfl

/-- Past the slots of a group there is nothing to write to. -/
theorem setAt_of_size_le {g : Group} {i : Nat} (h : g.size ≤ i) (s : Signature) (value : Option Regs) :
    s.setAt g i value = s := by
  rw [setAt, Group.slot?_eq_none_iff.2 h]

end Signature
end CpuIdent
