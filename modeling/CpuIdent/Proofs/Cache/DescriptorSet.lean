import CpuIdent.Cache
import CpuIdent.Proofs.Bits
import Mathlib.Data.Finset.Dedup
import Mathlib.Data.Nat.Bitwise

/-!
# Descriptor bytes as a set

Leaf 2 says of caches what the set of its descriptor bytes says (`descriptorSet`), wherever and however often a byte stands
in it. The rows of the table go first, the last one for a slot winning (`tabled`); then come bytes 0x49 and 0x40, each of
which is about what is left before it. `decodeDescriptors_bySet` is the whole statement.
-/

namespace CpuIdent
namespace Cache

/-! ## The set of bytes -/

/-- The bytes of the registers of leaf 2 whose top bit is clear. -/
def descriptorSet (r : Regs) : Finset UInt8 :=
  ((r.toList.filter fun w => w.toNat < 2 ^ 31).flatMap fun w =>
    (List.range 4).map fun k => UInt8.ofNat (w.toNat / 256 ^ k)).toFinset

/-- A word without its top bit. -/
theorem and_top_eq_zero_iff (w : UInt32) : w &&& 0x80000000 = 0 ↔ w.toNat < 2 ^ 31 := by
  have hlt : w.toNat < 2 ^ 32 := w.toNat_lt
  have hand : (w &&& 0x80000000).toNat = (w.toNat.testBit 31).toNat * 2 ^ 31 := by
    rw [UInt32.toNat_and]
    exact Nat.and_two_pow w.toNat 31
  rw [← UInt32.toNat_inj, hand, UInt32.toNat_zero, Nat.testBit_eq_decide_div_mod_eq]
  by_cases h : w.toNat / 2 ^ 31 % 2 = 1
  · simp only [h, decide_true, Bool.toNat_true]
    omega
  · simp only [h, decide_false, Bool.toNat_false]
    omega

/-- The bytes that are searched are those of the set. -/
theorem contains_descriptorBytes (r : Regs) (b : UInt8) : (descriptorBytes r).contains b = decide (b ∈ descriptorSet r) := by
  have hfilter : (fun w : UInt32 => w &&& 0x80000000 == 0) = fun w => decide (w.toNat < 2 ^ 31) := by
    funext w
    rw [Bool.eq_iff_iff, beq_iff_eq, decide_eq_true_iff, and_top_eq_zero_iff]
  have hbytes : Bits.bytes = fun w => (List.range 4).map fun k => UInt8.ofNat (w.toNat / 256 ^ k) := funext Bits.bytes_eq
  rw [descriptorBytes, hfilter, hbytes, descriptorSet, Bool.eq_iff_iff, List.contains_iff_mem, decide_eq_true_iff,
    List.mem_toFinset]

/-! ## What the set says -/

/-- A slot after the table: the last row for it whose byte is in the set, and what it was if there is none. -/
def tabled (D : Finset UInt8) (slot : CacheSlot) (initial : CacheInfo) : CacheInfo :=
  ((descriptors.filterMap fun d => if d.slot = slot ∧ d.code ∈ D then some d.info else none).getLast?).getD initial

/-- Levels 2 and 3 after byte 0x49. -/
def withLarge (D : Finset UInt8) (family model : Int) (outer : CacheInfo × CacheInfo) : CacheInfo × CacheInfo :=
  if 0x49 ∈ D then if family = 0xF ∧ model = 6 then (outer.1, ⟨4096, 16, 64⟩) else (⟨4096, 16, 64⟩, outer.2) else outer

/-- Levels 2 and 3 after byte 0x40. -/
def withAbsence (D : Finset UInt8) (outer : CacheInfo × CacheInfo) : CacheInfo × CacheInfo :=
  if 0x40 ∈ D then
    if outer.1.sizeKb = -1 then ({ outer.1 with sizeKb := 0 }, outer.2) else (outer.1, { outer.2 with sizeKb := 0 })
  else outer

/-- The caches that a set of descriptor bytes leaves. -/
structure Describes (D : Finset UInt8) (family model : Int) (before after : CacheLevels) : Prop where
  l1Data : after.l1Data = tabled D .l1Data before.l1Data
  l1Instruction : after.l1Instruction = tabled D .l1Instruction before.l1Instruction
  outer : (after.l2, after.l3) =
    withAbsence D (withLarge D family model (tabled D .l2 before.l2, tabled D .l3 before.l3))
  l4 : after.l4 = before.l4

section

variable {D : Finset UInt8} {family model : Int} {before after after' : CacheLevels}

/-- A set of bytes leaves the caches that it leaves, and no others. -/
theorem Describes.unique (h : Describes D family model before after) (h' : Describes D family model before after') :
    after = after' := by
  obtain ⟨hl2, hl3⟩ := Prod.mk.inj (h.outer.trans h'.outer.symm)
  refine CacheLevels.ext_get fun slot => ?_
  cases slot with
  | l1Data => exact h.l1Data.trans h'.l1Data.symm
  | l1Instruction => exact h.l1Instruction.trans h'.l1Instruction.symm
  | l2 => exact hl2
  | l3 => exact hl3
  | l4 => exact h.l4.trans h'.l4.symm

/-- No row of the table is about level 4. -/
theorem tabled_l4 (D : Finset UInt8) (initial : CacheInfo) : tabled D .l4 initial = initial := by
  have hnone : ∀ d ∈ descriptors, d.slot ≠ .l4 := by decide
  have hrows : descriptors.filterMap (fun d => if d.slot = .l4 ∧ d.code ∈ D then some d.info else none) = [] :=
    List.filterMap_eq_nil_iff.2 fun d hd => if_neg fun h => hnone d hd h.1
  rw [tabled, hrows]
  rfl

/-- Going through the table leaves in a slot what the set says of it. -/
theorem get_foldl_descriptors (r : Regs) (slot : CacheSlot) (caches : CacheLevels) :
    (descriptors.foldl (fun c d => if (descriptorBytes r).contains d.code then c.set d.slot d.info else c) caches).get slot =
      tabled (descriptorSet r) slot (caches.get slot) := by
  refine CacheLevels.get_foldl (fun c d => ?_) descriptors caches
  rw [contains_descriptorBytes]
  by_cases hcode : d.code ∈ descriptorSet r <;> by_cases hslot : slot = d.slot <;> simp [hcode, hslot, eq_comm]

end

section

variable (D : Finset UInt8) (family model : Int) (c : CacheLevels)

/-- Byte 0x49 replaces one of levels 2 and 3. -/
theorem set_large_eq :
    (if 0x49 ∈ D then c.set (if family = 0xF ∧ model = 6 then .l3 else .l2) ⟨4096, 16, 64⟩ else c) =
      { c with l2 := (withLarge D family model (c.l2, c.l3)).1, l3 := (withLarge D family model (c.l2, c.l3)).2 } := by
  unfold withLarge
  split
  · split <;> rfl
  · rfl

/-- Byte 0x40 takes the size from one of levels 2 and 3. -/
theorem size_zero_eq :
    (if 0x40 ∈ D then
      if c.l2.sizeKb = -1 then { c with l2 := { c.l2 with sizeKb := 0 } } else { c with l3 := { c.l3 with sizeKb := 0 } }
    else c) = { c with l2 := (withAbsence D (c.l2, c.l3)).1, l3 := (withAbsence D (c.l2, c.l3)).2 } := by
  unfold withAbsence
  split
  · split <;> rfl
  · rfl

end

/-- The decoder leaves what the set describes. -/
theorem decodeDescriptors_describes (r : Regs) (family model : Int) (caches : CacheLevels) :
    Describes (descriptorSet r) family model caches (decodeDescriptors r family model caches) := by
  have htable := fun slot => get_foldl_descriptors r slot caches
  unfold decodeDescriptors
  dsimp only
  generalize descriptors.foldl _ caches = known at htable ⊢
  simp only [contains_descriptorBytes, decide_eq_true_iff]
  rw [set_large_eq, size_zero_eq]
  have hl2 : known.l2 = tabled (descriptorSet r) .l2 caches.l2 := htable .l2
  have hl3 : known.l3 = tabled (descriptorSet r) .l3 caches.l3 := htable .l3
  refine ⟨htable .l1Data, htable .l1Instruction, ?_, (htable .l4).trans (tabled_l4 _ _)⟩
  rw [← hl2, ← hl3]

/-- What leaf 2 says of caches, in two parts.
1. The set of its descriptor bytes decides: each slot of level 1 is left with the last row of the table for it whose byte
is in the set; so are levels 2 and 3, except that byte 0x49 then replaces one of them and byte 0x40 then takes the size from
one of them. Level 4 stays as it was.
2. Two leaves with the same set of bytes leave the same caches. -/
theorem decodeDescriptors_bySet (r : Regs) (family model : Int) (caches : CacheLevels) :
    Describes (descriptorSet r) family model caches (decodeDescriptors r family model caches) ∧
    ∀ r', descriptorSet r' = descriptorSet r →
      decodeDescriptors r' family model caches = decodeDescriptors r family model caches := by
  refine ⟨decodeDescriptors_describes r family model caches, fun r' hset => ?_⟩
  have h' := decodeDescriptors_describes r' family model caches
  rw [hset] at h'
  exact h'.unique (decodeDescriptors_describes r family model caches)

/-- Seven descriptor bytes, and the same ones in other places, some of them twice, beside a register that holds none. -/
def sorted : Regs := ⟨0x01, 0x2C307D00, 0x00004940, 0⟩

@[inherit_doc sorted] def shuffled : Regs := ⟨0x40404901, 0x8000FF2C, 0x7D2C3000, 0⟩

/-- Two orders of the same bytes, one of them with repetitions. -/
theorem decodeDescriptors_bySet_shuffled :
    descriptorSet shuffled = descriptorSet sorted ∧
      decodeDescriptors shuffled 6 15 .unknown = decodeDescriptors sorted 6 15 .unknown ∧
      (decodeDescriptors sorted 6 15 .unknown).l1Data = ⟨32, 8, 64⟩ ∧
      ((decodeDescriptors sorted 6 15 .unknown).l2, (decodeDescriptors sorted 6 15 .unknown).l3) =
        (⟨4096, 16, 64⟩, ⟨0, -1, -1⟩) := by
  have hset : descriptorSet shuffled = descriptorSet sorted := by decide
  obtain ⟨hdescribes, hsame⟩ := decodeDescriptors_bySet sorted 6 15 .unknown
  exact ⟨hset, hsame shuffled hset, hdescribes.l1Data.trans (by decide), hdescribes.outer.trans (by decide)⟩

end Cache
end CpuIdent
