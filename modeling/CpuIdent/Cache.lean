import CpuIdent.Identity

/-!
# Cache hierarchies

Three descriptions of caches: deterministic sub-leaves, the descriptor bytes of leaf 2, and the two cache leaves of older AMD CPUs.
Sizes are computed in machine words, as the registers hold them.
-/

namespace CpuIdent
namespace Cache

/-- A machine word as a number. -/
def number (w : UInt32) : Int := Int.ofNat w.toNat

/-- The largest size that is recorded. -/
def maxSize : Int := 0x7FFFFFFF

/-! ## Deterministic sub-leaves -/

/-- A decoded deterministic sub-leaf. -/
structure Deterministic where
  level : UInt32
  /-- The kind: 1 for data, 2 for instructions, 3 for both. -/
  kind : UInt32
  ways : UInt32
  partitions : UInt32
  lineSize : UInt32
  sets : UInt32
  deriving DecidableEq, Repr

namespace Deterministic

/-- Decodes a sub-leaf; kind or level zero ends the enumeration. Counts are stored less one, and the count of sets wraps round. -/
def decode? (r : Regs) : Option Deterministic :=
  let kind := Bits.field32 r.eax 4 0
  let level := Bits.field32 r.eax 7 5
  if kind = 0 ∨ level = 0 then none
  else some {
    level, kind
    ways := Bits.field32 r.ebx 31 22 + 1
    partitions := Bits.field32 r.ebx 21 12 + 1
    lineSize := Bits.field32 r.ebx 11 0 + 1
    sets := r.ecx + 1 }

/-- The size in kilobytes. -/
def sizeKb (c : Deterministic) : UInt64 :=
  c.ways.toUInt64 * c.partitions.toUInt64 * c.lineSize.toUInt64 * c.sets.toUInt64 / 1024

/-- The slot that a level and a kind belong to. -/
def slot? (c : Deterministic) : Option CacheSlot :=
  if c.level = 1 ∧ c.kind = 1 then some .l1Data
  else if c.level = 1 ∧ c.kind = 2 then some .l1Instruction
  else if c.level = 2 ∧ c.kind = 3 then some .l2
  else if c.level = 3 ∧ c.kind = 3 then some .l3
  else if c.level = 4 ∧ c.kind = 3 then some .l4
  else none

/-- The description of the cache; a size past the largest is recorded as the largest. -/
def info (c : Deterministic) : CacheInfo :=
  ⟨min (Int.ofNat c.sizeKb.toNat) maxSize, number c.ways, number c.lineSize⟩

/-- The caches with this one recorded, if it belongs to a slot. -/
def addTo (c : Deterministic) (caches : CacheLevels) : CacheLevels :=
  match c.slot? with
  | some slot => caches.set slot c.info
  | none => caches

end Deterministic

/-- The caches described by a run of sub-leaves, up to the first that is unknown or ends the enumeration. -/
def decodeDeterministic : List (Option Regs) → CacheLevels → CacheLevels
  | [], caches => caches
  | sub :: subs, caches =>
    match sub.bind Deterministic.decode? with
    | some c => decodeDeterministic subs (c.addTo caches)
    | none => caches

/-! ## Descriptor bytes -/

/-- A descriptor byte and the cache that it stands for. -/
structure Descriptor where
  code : UInt8
  slot : CacheSlot
  info : CacheInfo

/-- The descriptor bytes with a fixed meaning. -/
def descriptors : List Descriptor := [
  ⟨0x06, .l1Instruction, ⟨8, 4, 32⟩⟩,
  ⟨0x08, .l1Instruction, ⟨16, 4, 32⟩⟩,
  ⟨0x0A, .l1Data, ⟨8, 2, 32⟩⟩,
  ⟨0x0C, .l1Data, ⟨16, 4, 32⟩⟩,
  ⟨0x22, .l3, ⟨512, 4, 64⟩⟩,
  ⟨0x23, .l3, ⟨1024, 8, 64⟩⟩,
  ⟨0x25, .l3, ⟨2048, 8, 64⟩⟩,
  ⟨0x29, .l3, ⟨4096, 8, 64⟩⟩,
  ⟨0x2C, .l1Data, ⟨32, 8, 64⟩⟩,
  ⟨0x30, .l1Instruction, ⟨32, 8, 64⟩⟩,
  ⟨0x39, .l2, ⟨128, 4, 64⟩⟩,
  ⟨0x3A, .l2, ⟨192, 6, 64⟩⟩,
  ⟨0x3B, .l2, ⟨128, 2, 64⟩⟩,
  ⟨0x3C, .l2, ⟨256, 4, 64⟩⟩,
  ⟨0x3D, .l2, ⟨384, 6, 64⟩⟩,
  ⟨0x3E, .l2, ⟨512, 4, 64⟩⟩,
  ⟨0x41, .l2, ⟨128, 4, 32⟩⟩,
  ⟨0x42, .l2, ⟨256, 4, 32⟩⟩,
  ⟨0x43, .l2, ⟨512, 4, 32⟩⟩,
  ⟨0x44, .l2, ⟨1024, 4, 32⟩⟩,
  ⟨0x45, .l2, ⟨2048, 4, 32⟩⟩,
  ⟨0x46, .l3, ⟨4096, 4, 64⟩⟩,
  ⟨0x47, .l3, ⟨8192, 8, 64⟩⟩,
  ⟨0x4A, .l3, ⟨6144, 12, 64⟩⟩,
  ⟨0x4B, .l3, ⟨8192, 16, 64⟩⟩,
  ⟨0x4C, .l3, ⟨12288, 12, 64⟩⟩,
  ⟨0x4D, .l3, ⟨16384, 16, 64⟩⟩,
  ⟨0x4E, .l2, ⟨6144, 24, 64⟩⟩,
  ⟨0x60, .l1Data, ⟨16, 8, 64⟩⟩,
  ⟨0x66, .l1Data, ⟨8, 4, 64⟩⟩,
  ⟨0x67, .l1Data, ⟨16, 4, 64⟩⟩,
  ⟨0x68, .l1Data, ⟨32, 4, 64⟩⟩,
  ⟨0x70, .l1Instruction, ⟨12, 8, -1⟩⟩,
  ⟨0x71, .l1Instruction, ⟨16, 8, -1⟩⟩,
  ⟨0x72, .l1Instruction, ⟨32, 8, -1⟩⟩,
  ⟨0x73, .l1Instruction, ⟨64, 8, -1⟩⟩,
  ⟨0x78, .l2, ⟨1024, 4, 64⟩⟩,
  ⟨0x79, .l2, ⟨128, 8, 64⟩⟩,
  ⟨0x7A, .l2, ⟨256, 8, 64⟩⟩,
  ⟨0x7B, .l2, ⟨512, 8, 64⟩⟩,
  ⟨0x7C, .l2, ⟨1024, 8, 64⟩⟩,
  ⟨0x7D, .l2, ⟨2048, 8, 64⟩⟩,
  ⟨0x7F, .l2, ⟨512, 2, 64⟩⟩,
  ⟨0x82, .l2, ⟨256, 8, 32⟩⟩,
  ⟨0x83, .l2, ⟨512, 8, 32⟩⟩,
  ⟨0x84, .l2, ⟨1024, 8, 32⟩⟩,
  ⟨0x85, .l2, ⟨2048, 8, 32⟩⟩,
  ⟨0x86, .l2, ⟨512, 4, 64⟩⟩,
  ⟨0x87, .l2, ⟨1024, 8, 64⟩⟩]

/-- The descriptor bytes of leaf 2; a register with its top bit set holds none. -/
def descriptorBytes (r : Regs) : List UInt8 :=
  (r.toList.filter fun w => w &&& 0x80000000 == 0).flatMap Bits.bytes

/-- The caches described by descriptor bytes. Byte 0x49 is a level-3 cache on one model of Xeon and a level-2 cache on all others.
Byte 0x40 says that there is no level-2 cache or, if one is described, no level-3 cache. -/
def decodeDescriptors (r : Regs) (family model : Int) (caches : CacheLevels) : CacheLevels :=
  let present := descriptorBytes r
  let caches := descriptors.foldl (fun c d => if present.contains d.code then c.set d.slot d.info else c) caches
  let caches :=
    if present.contains 0x49 then caches.set (if family = 0xF ∧ model = 6 then .l3 else .l2) ⟨4096, 16, 64⟩ else caches
  if present.contains 0x40 then
    if caches.l2.sizeKb = -1 then { caches with l2 := { caches.l2 with sizeKb := 0 } }
    else { caches with l3 := { caches.l3 with sizeKb := 0 } }
  else caches

/-! ## Cache leaves of older AMD CPUs -/

/-- The associativity that a four-bit code stands for. -/
def amdWays (code : UInt32) : Int :=
  ([0, 1, 2, 0, 4, 0, 8, 0, 16, 0, 32, 48, 64, 92, 128, 255] : List Int).getD code.toNat 0

/-- A level-1 cache as leaf 0x80000005 describes it. -/
def amdLevel1 (w : UInt32) : CacheInfo :=
  ⟨number (Bits.field32 w 31 24), number (Bits.field32 w 23 16), number (Bits.field32 w 7 0)⟩

/-- A level-2 cache as leaf 0x80000006 describes it. -/
def amdLevel2 (w : UInt32) : CacheInfo :=
  ⟨number (Bits.field32 w 31 16), amdWays (Bits.field32 w 15 12), number (Bits.field32 w 7 0)⟩

/-- A level-3 cache as leaf 0x80000006 describes it, in units of 512 kilobytes; no units, no cache. -/
def amdLevel3 (w : UInt32) : CacheInfo :=
  let units := Bits.field32 w 31 18
  if units > 0 then ⟨number (units * 512), amdWays (Bits.field32 w 15 12), number (Bits.field32 w 7 0)⟩ else ⟨0, -1, -1⟩

/-- The caches described by the two leaves, as far as they are supported and known. -/
def decodeAmd (s : Signature) (caches : CacheLevels) : CacheLevels :=
  let caches := match s.extendedLeaf 0x80000005 with
    | some r => { caches with l1Data := amdLevel1 r.ecx, l1Instruction := amdLevel1 r.edx }
    | none => caches
  match s.extendedLeaf 0x80000006 with
  | some r => { caches with l2 := amdLevel2 r.ecx, l3 := amdLevel3 r.edx }
  | none => caches

end Cache
end CpuIdent
