import CpuIdent.Signature.Basic

/-!
# Supported leaves

Every slot holds the answer of a leaf or of one of its sub-leaves (`Slot.leaf`), and the CPU supports the leaves up to
the maximum of their range (`Signature.Supports`). Looking a leaf up gives its answer exactly where the leaf is supported
and its slot is known (`leaf_eq_some_iff`). So two signatures that agree on the first leaves and on the slots of supported
leaves (`AgreesWhereSupported`) give the same answer to every lookup.
-/

namespace CpuIdent

/-- The leaf that a slot belongs to. -/
def Slot.leaf (slot : Slot) : UInt32 :=
  match slot.group with
  | .basic => UInt32.ofNat slot.index.val
  | .extended => extendedBase + UInt32.ofNat slot.index.val
  | .cache => 0x04
  | .topology => 0x0B
  | .enclave => 0x12
  | .trace => 0x14
  | .amdCache => 0x8000001D
  | .amdTopology => 0x80000026

/-- A slot holds a leaf as a whole, not one of its sub-leaves. -/
def Slot.IsWhole (slot : Slot) : Prop := slot.group = .basic ∨ slot.group = .extended

theorem Group.size_pos (g : Group) : 0 < g.size := by
  cases g <;> decide

/-- The first slot of a group. -/
def Group.firstSlot (g : Group) : Slot := ⟨g, ⟨0, g.size_pos⟩⟩

/-- No group has more than 32 slots. -/
theorem Group.size_le (g : Group) : g.size ≤ 32 := by
  cases g <;> decide

/-- A basic slot is the leaf of its number. -/
theorem Slot.toNat_leaf_basic {slot : Slot} (h : slot.group = .basic) : slot.leaf.toNat = slot.index.val := by
  have hlt := Nat.lt_of_lt_of_le slot.index.isLt (Group.size_le slot.group)
  simp only [Slot.leaf, h, UInt32.toNat_ofNat']
  omega

/-- An extended slot is the leaf of its number, counted from the extended base. -/
theorem Slot.toNat_leaf_extended {slot : Slot} (h : slot.group = .extended) :
    slot.leaf.toNat = extendedBase.toNat + slot.index.val := by
  have hlt := Nat.lt_of_lt_of_le slot.index.isLt (Group.size_le slot.group)
  have hbase : extendedBase.toNat = 0x80000000 := rfl
  simp only [Slot.leaf, h, UInt32.toNat_add, UInt32.toNat_ofNat', hbase]
  omega

namespace Signature

/-- A leaf does not lie past the maximum that the CPU reports for its range. -/
def Supports (s : Signature) (leaf : UInt32) : Prop := leaf ≤ if extendedBase ≤ leaf then s.maxExtended else s.maxBasic

/-- A leaf is supported, and its answer is known. -/
def Answers (s : Signature) (leaf : UInt32) (r : Regs) : Prop :=
  s.Supports leaf ∧ ∃ slot : Slot, slot.IsWhole ∧ slot.leaf = leaf ∧ s.x86 slot = some r

section

variable {s : Signature} {leaf : UInt32} {r : Regs}

instance (s : Signature) (leaf : UInt32) : Decidable (s.Supports leaf) :=
  inferInstanceAs (Decidable (leaf ≤ if extendedBase ≤ leaf then s.maxExtended else s.maxBasic))

/-- A basic leaf is supported up to the maximum of leaf 0. -/
theorem supports_basic (h : ¬ extendedBase ≤ leaf) : s.Supports leaf ↔ leaf ≤ s.maxBasic := by
  rw [Supports, if_neg h]

/-- An extended leaf is supported up to the maximum of its own range. -/
theorem supports_extended (h : extendedBase ≤ leaf) : s.Supports leaf ↔ leaf ≤ s.maxExtended := by
  rw [Supports, if_pos h]

/-- A lookup finds what a slot holds. -/
theorem getAt_eq_some_iff {g : Group} {i : Nat} :
    s.getAt g i = some r ↔ ∃ slot : Slot, slot.group = g ∧ slot.index.val = i ∧ s.x86 slot = some r := by
  simp only [getAt, Option.bind_eq_some_iff, Group.slot?_eq_some_iff, and_assoc]

/-- Below the first extended leaf, leaves stand in the basic slots at their own numbers. -/
theorem slot_basic_iff {slot : Slot} (h : ¬ extendedBase ≤ leaf) :
    slot.group = .basic ∧ slot.index.val = leaf.toNat ↔ slot.IsWhole ∧ slot.leaf = leaf := by
  constructor
  · rintro ⟨hg, hi⟩
    exact ⟨Or.inl hg, UInt32.toNat_inj.1 ((Slot.toNat_leaf_basic hg).trans hi)⟩
  · rintro ⟨hg | hg, rfl⟩
    · exact ⟨hg, (Slot.toNat_leaf_basic hg).symm⟩
    · refine absurd ?_ h
      rw [UInt32.le_iff_toNat_le, Slot.toNat_leaf_extended hg]
      exact Nat.le_add_right _ _

/-- From the first extended leaf on, leaves stand in the extended slots at their distance from it. -/
theorem slot_extended_iff {slot : Slot} (h : extendedBase ≤ leaf) :
    slot.group = .extended ∧ slot.index.val = (leaf - extendedBase).toNat ↔ slot.IsWhole ∧ slot.leaf = leaf := by
  have hsub : (leaf - extendedBase).toNat = leaf.toNat - extendedBase.toNat := UInt32.toNat_sub_of_le _ _ h
  rw [UInt32.le_iff_toNat_le] at h
  constructor
  · rintro ⟨hg, hi⟩
    refine ⟨Or.inr hg, UInt32.toNat_inj.1 ?_⟩
    rw [Slot.toNat_leaf_extended hg, hi, hsub]
    omega
  · rintro ⟨hg | hg, rfl⟩
    · have hlt := Nat.lt_of_lt_of_le slot.index.isLt (Group.size_le slot.group)
      rw [Slot.toNat_leaf_basic hg] at h
      exact absurd (Nat.lt_of_le_of_lt h hlt) (by decide)
    · refine ⟨hg, ?_⟩
      rw [hsub, Slot.toNat_leaf_extended hg]
      omega

/-- A leaf is looked up with its answer exactly where it is supported and known. -/
theorem leaf_eq_some_iff : s.leaf leaf = some r ↔ s.Answers leaf r := by
  unfold Signature.leaf Answers
  split
  · rename_i h
    simp only [extendedLeaf, h, true_and, Option.ite_none_right_eq_some, getAt_eq_some_iff, ← and_assoc, slot_extended_iff h,
      supports_extended h]
  · rename_i h
    simp only [basicLeaf, Option.ite_none_right_eq_some, getAt_eq_some_iff, ← and_assoc, slot_basic_iff h, supports_basic h]

end

/-! ## Agreement -/

/-- Leaf 0 is known and not all zero. -/
def HasFirstLeaf (s : Signature) : Prop := ∃ r, s.getAt .basic 0 = some r ∧ r ≠ ⟨0, 0, 0, 0⟩

/-- A first leaf that is not zero marks a signature of x86. -/
theorem any_not_isZero_iff {s : Signature} : ((s.getAt .basic 0).any fun r => !r.isZero) = true ↔ s.HasFirstLeaf := by
  simp [HasFirstLeaf, Option.any_eq_true, Regs.isZero]

/-- A signature is of an x86 CPU exactly if it has its first leaf. -/
theorem architecture_eq_x86_iff {s : Signature} : s.architecture = .x86 ↔ s.HasFirstLeaf := by
  rw [← any_not_isZero_iff, architecture]
  split
  · simp [*]
  · split <;> simp [*]

/-- Two signatures agree on the first leaf of each range and on every slot of a leaf that the first one supports. -/
structure AgreesWhereSupported (s t : Signature) : Prop where
  firstBasic : s.getAt .basic 0 = t.getAt .basic 0
  firstExtended : s.getAt .extended 0 = t.getAt .extended 0
  supported : ∀ slot : Slot, s.Supports slot.leaf → s.x86 slot = t.x86 slot

namespace AgreesWhereSupported

variable {s t : Signature} (h : AgreesWhereSupported s t)
include h

/-- The maximum of the basic leaves is the same. -/
theorem maxBasic_eq : s.maxBasic = t.maxBasic := by
  rw [maxBasic, h.firstBasic, maxBasic]

theorem maxExtended_eq : s.maxExtended = t.maxExtended := by
  rw [maxExtended, h.firstExtended, maxExtended]

/-- A slot is the same if its leaf is supported. -/
theorem getAt_eq {g : Group} {i : Nat} (hs : ∀ slot : Slot, slot.group = g ∧ slot.index.val = i → s.Supports slot.leaf) :
    s.getAt g i = t.getAt g i := by
  unfold getAt
  cases hslot : g.slot? i with
  | none => rfl
  | some slot => exact h.supported slot (hs slot (Group.slot?_eq_some_iff.1 hslot))

/-- A basic leaf reads the same. -/
theorem basicLeaf_eq (leaf : UInt32) (hleaf : ¬ extendedBase ≤ leaf) : s.basicLeaf leaf = t.basicLeaf leaf := by
  unfold basicLeaf
  rw [← h.maxBasic_eq]
  split
  · rename_i hmax
    refine h.getAt_eq fun slot hslot => ?_
    rw [((slot_basic_iff hleaf).1 hslot).2]
    exact (supports_basic hleaf).2 hmax
  · rfl

/-- An extended leaf reads the same. -/
theorem extendedLeaf_eq (leaf : UInt32) : s.extendedLeaf leaf = t.extendedLeaf leaf := by
  unfold extendedLeaf
  rw [← h.maxExtended_eq]
  split
  · rename_i hmax
    refine h.getAt_eq fun slot hslot => ?_
    rw [((slot_extended_iff hmax.1).1 hslot).2]
    exact (supports_extended hmax.1).2 hmax.2
  · rfl

theorem leaf_eq (leaf : UInt32) : s.leaf leaf = t.leaf leaf := by
  unfold Signature.leaf
  split
  · exact h.extendedLeaf_eq leaf
  · rename_i hleaf
    exact h.basicLeaf_eq leaf hleaf

/-- A sub-leaf of a supported leaf is the same. -/
theorem getAt_eq_of_leaf (g : Group) (i : Nat) (leaf : UInt32) (hg : ∀ slot : Slot, slot.group = g → slot.leaf = leaf)
    (hs : s.Supports leaf) : s.getAt g i = t.getAt g i :=
  h.getAt_eq fun slot hslot => by rwa [hg slot hslot.1]

/-- All sub-leaves of a supported leaf are the same. -/
theorem slots_eq_of_leaf (g : Group) (leaf : UInt32) (hg : ∀ slot : Slot, slot.group = g → slot.leaf = leaf)
    (hs : s.Supports leaf) : s.slots g = t.slots g := by
  refine List.map_congr_left fun slot hslot => h.supported slot ?_
  obtain ⟨i, -, rfl⟩ := List.mem_map.1 hslot
  rwa [hg _ rfl]

/-- The vendor string is the same. -/
theorem vendorString_eq : s.vendorString = t.vendorString := by
  rw [vendorString, h.firstBasic, vendorString]

/-- The brand string is the same. -/
theorem brandString_eq : s.brandString = t.brandString := by
  simp only [brandString, brandBytes, h.extendedLeaf_eq]

end AgreesWhereSupported

/-- A slot of a leaf that is not supported may hold anything. -/
theorem agreesWhereSupported_setSlot {s : Signature} {slot : Slot} (hslot : ¬ s.Supports slot.leaf)
    (hfirst : slot ≠ Group.firstSlot .extended) (value : Option Regs) : s.AgreesWhereSupported (s.setSlot slot value) := by
  have hkept : ∀ other, other ≠ slot → s.x86 other = (s.setSlot slot value).x86 other := by
    intro other hne
    simp only [setSlot, hne, ↓reduceIte]
  have hbasic : Group.firstSlot .basic ≠ slot := by
    rintro rfl
    exact hslot ((supports_basic (by decide)).2 (UInt32.le_iff_toNat_le.2 (Nat.zero_le _)))
  refine ⟨hkept _ hbasic, hkept _ (Ne.symm hfirst), fun other hother => hkept other ?_⟩
  rintro rfl
  exact hslot hother

end Signature
end CpuIdent
