import CpuIdent.Proofs.Signature.ArmFields
import CpuIdent.Proofs.Signature.Supported
import Mathlib.Data.List.Induction

/-!
# Editing signatures

Leaves, slots and registers are written one after the other. What one edit writes to a slot or to a register is told by
the numbers of the leaves alone (`slotValue?`, `registerValue?`), and the edit leaves all else (`x86_apply`, `arm_apply`).
So after any run each place holds the last value that was written to it (`x86_perform`, `arm_perform`), and a leaf is found
if the first leaf of its range, as it was written last, reports it (`basicLeaf_perform`, `extendedLeaf_perform`).
-/

namespace CpuIdent

/-- A write to a signature. -/
inductive SignatureEdit where
  | basic (leaf : UInt32) (regs : Regs)
  | extended (leaf : UInt32) (regs : Regs)
  | slot (place : Slot) (value : Option Regs)
  | register (r : ArmRegister) (value : Option UInt64)

namespace SignatureEdit

/-- A signature after an edit. -/
def apply (s : Signature) : SignatureEdit → Signature
  | .basic leaf regs => s.setBasic leaf regs
  | .extended leaf regs => s.setExtended leaf regs
  | .slot place value => s.setSlot place value
  | .register r value => s.setArm r value

/-- The register file of a signature, as it is kept, after an edit. -/
def applyFile (file : ArmFile) : SignatureEdit → ArmFile
  | .register r value => file.set r value
  | _ => file

/-- The signature that edits leave, from the one in which nothing is known. -/
def perform (edits : List SignatureEdit) : Signature := edits.foldl apply .empty

/-- The register file that edits leave, from the one in which no register is known. -/
def performFile (edits : List SignatureEdit) : ArmFile := edits.foldl applyFile .empty

/-! ## What is written last -/

/-- What an edit writes to the slot of a group at an index. A basic leaf is kept at its number, an extended leaf at its
distance from the first one. -/
def slotValue? (g : Group) (i : Nat) : SignatureEdit → Option (Option Regs)
  | .basic leaf regs => if g = .basic ∧ leaf.toNat = i then some (some regs) else none
  | .extended leaf regs => if g = .extended ∧ leaf.toNat = 0x80000000 + i then some (some regs) else none
  | .slot place value => if place.group = g ∧ place.index.val = i then some value else none
  | .register _ _ => none

/-- What an edit writes to a register. -/
def registerValue? (q : ArmRegister) : SignatureEdit → Option (Option UInt64)
  | .register r value => if q = r then some value else none
  | _ => none

section

variable {α σ : Type} (value? : SignatureEdit → Option (Option α))

/-- The last value that some of the edits write, unknown if none of them does. -/
def last (edits : List SignatureEdit) : Option α := (edits.reverse.findSome? value?).join

/-- The last edit counts if it gives a value. -/
theorem last_append_singleton (edits : List SignatureEdit) (e : SignatureEdit) :
    last value? (edits ++ [e]) = (value? e).getD (last value? edits) := by
  rw [last, List.reverse_append, List.reverse_singleton, List.singleton_append, List.findSome?_cons]
  cases value? e with
  | none => rfl
  | some value => rfl

/-- Where each edit replaces what it writes and leaves all else, a run of edits leaves the last value that was written. -/
theorem foldl_eq_last {step : σ → SignatureEdit → σ} (view : σ → Option α) {start : σ} (hstart : view start = none)
    (hstep : ∀ s e, view (step s e) = (value? e).getD (view s)) (edits : List SignatureEdit) :
    view (edits.foldl step start) = last value? edits := by
  induction edits using List.reverseRecOn with
  | nil => exact hstart
  | append_singleton edits e ih => rw [List.foldl_append, List.foldl_cons, List.foldl_nil, hstep, ih, last_append_singleton]

end

/-! ## One edit -/

section

variable (s : Signature)

theorem size_basic : Group.size .basic = 32 := rfl

theorem size_extended : Group.size .extended = 32 := rfl

/-- The distance from the first extended leaf, which wraps round below it, is an index of a slot only from that leaf on. -/
theorem toNat_sub_extendedBase_eq_iff {leaf : UInt32} {i : Nat} (hi : i < 32) :
    (leaf - extendedBase).toNat = i ↔ leaf.toNat = 0x80000000 + i := by
  have hbase : extendedBase.toNat = 0x80000000 := rfl
  have hlt := leaf.toNat_lt
  rw [UInt32.toNat_sub, hbase]
  omega

/-- A value under a condition, or another one. -/
theorem getD_ite_some {α : Type} (p : Prop) [Decidable p] (v w : α) :
    (if p then some v else none).getD w = if p then v else w := by
  split <;> rfl

/-- An edit writes its value to the slot that it is for, and leaves every other slot. -/
theorem x86_apply (e : SignatureEdit) (slot : Slot) :
    (apply s e).x86 slot = (slotValue? slot.group slot.index e).getD (s.x86 slot) := by
  have hindex := Nat.lt_of_lt_of_le slot.index.isLt (Group.size_le slot.group)
  cases e with
  | basic leaf regs =>
    simp only [apply, Signature.setBasic, Signature.x86_setAt, slotValue?, getD_ite_some, eq_comm (a := leaf.toNat)]
  | extended leaf regs =>
    simp only [apply, Signature.setExtended, Signature.x86_setAt, slotValue?, getD_ite_some,
      eq_comm (a := slot.index.val), toNat_sub_extendedBase_eq_iff hindex]
  | slot place value =>
    have hsame : place.group = slot.group ∧ place.index.val = slot.index.val ↔ slot = place := by
      rw [← Group.slot?_eq_some_iff, Group.slot?, dif_pos slot.index.isLt, Option.some.injEq]
    simp only [apply, Signature.setSlot, slotValue?, getD_ite_some, hsame]
  | register r value => rfl

/-- An edit writes its value to the register that it is for, and leaves every other register. -/
theorem arm_apply (e : SignatureEdit) (q : ArmRegister) :
    (apply s e).arm q = (registerValue? q e).getD (s.arm q) := by
  cases e with
  | basic leaf regs => exact congrFun (Signature.arm_setAt s _ _ _) q
  | extended leaf regs => exact congrFun (Signature.arm_setAt s _ _ _) q
  | slot place value => rfl
  | register r value => simp only [apply, Signature.setArm, registerValue?, getD_ite_some]

/-- The register file that is kept changes as the registers do. -/
theorem get_applyFile (file : ArmFile) (e : SignatureEdit) (q : ArmRegister) :
    (applyFile file e).get q = (registerValue? q e).getD (file.get q) := by
  cases e with
  | register r value => simp only [applyFile, ArmFile.get_set, registerValue?, getD_ite_some]
  | _ => rfl

/-- There is no slot for a basic leaf from 32 on. -/
theorem apply_basic_of_le {leaf : UInt32} (h : 32 ≤ leaf.toNat) (regs : Regs) : apply s (.basic leaf regs) = s :=
  Signature.setAt_of_size_le h s _

/-- There is no slot for an extended leaf before the first one or from the thirty-third on. -/
theorem apply_extended_of_not_mem {leaf : UInt32} (h : leaf.toNat < 0x80000000 ∨ 0x8000001F < leaf.toNat) (regs : Regs) :
    apply s (.extended leaf regs) = s := by
  refine Signature.setAt_of_size_le (Nat.not_lt.1 fun hlt => ?_) s _
  rw [size_extended] at hlt
  have hleaf := (toNat_sub_extendedBase_eq_iff hlt).1 rfl
  omega

end

/-! ## Runs of edits -/

section

variable (edits : List SignatureEdit)

/-- A slot holds what the last edit of it gave. -/
theorem x86_perform (slot : Slot) : (perform edits).x86 slot = last (slotValue? slot.group slot.index) edits :=
  foldl_eq_last _ (fun s => s.x86 slot) rfl (fun s e => x86_apply s e slot) edits

theorem arm_perform (q : ArmRegister) : (perform edits).arm q = last (registerValue? q) edits :=
  foldl_eq_last _ (fun s => s.arm q) rfl (fun s e => arm_apply s e q) edits

/-- A register of the file holds what the last edit of it gave. -/
theorem get_performFile (q : ArmRegister) : (performFile edits).get q = last (registerValue? q) edits :=
  foldl_eq_last _ (fun file => file.get q) (ArmFile.get_empty q) (fun file e => get_applyFile file e q) edits

/-- A lookup past the slots of a group finds nothing. -/
theorem getAt_perform (g : Group) (i : Nat) :
    (perform edits).getAt g i = if i < g.size then last (slotValue? g i) edits else none := by
  unfold Signature.getAt Group.slot?
  split
  · exact x86_perform edits _
  · rfl

/-- The highest leaf that the registers of the first leaf of a range report, zero if they are unknown. -/
def highest (first : Option Regs) : UInt32 := (first.map Regs.eax).getD 0

/-- The maximum of the basic leaves is what the last edit of the first of them states. -/
theorem maxBasic_perform : (perform edits).maxBasic = highest (last (slotValue? .basic 0) edits) := by
  rw [Signature.maxBasic, getAt_perform, size_basic, if_pos (by decide), highest]

/-- The maximum of the extended leaves is what the last edit of the first of them states. -/
theorem maxExtended_perform : (perform edits).maxExtended = highest (last (slotValue? .extended 0) edits) := by
  rw [Signature.maxExtended, getAt_perform, size_extended, if_pos (by decide), highest]

/-- A basic leaf is read if there is a slot for it and the maximum reaches it. -/
theorem basicLeaf_perform (leaf : UInt32) :
    (perform edits).basicLeaf leaf =
      if leaf.toNat < 32 ∧ leaf ≤ highest (last (slotValue? .basic 0) edits) then last (slotValue? .basic leaf.toNat) edits
      else none := by
  rw [Signature.basicLeaf, maxBasic_perform, getAt_perform, size_basic, ← ite_and]
  simp only [and_comm]

/-- An extended leaf is read if there is a slot for it and the maximum reaches it. -/
theorem extendedLeaf_perform (leaf : UInt32) :
    (perform edits).extendedLeaf leaf =
      if 0x80000000 ≤ leaf.toNat ∧ leaf.toNat < 0x80000020 ∧ leaf ≤ highest (last (slotValue? .extended 0) edits) then
        last (slotValue? .extended (leaf.toNat - 0x80000000)) edits
      else none := by
  have hbase : extendedBase.toNat = 0x80000000 := rfl
  rw [Signature.extendedLeaf, maxExtended_perform, getAt_perform, size_extended, ← ite_and]
  by_cases hfirst : extendedBase ≤ leaf
  · have hindex : (leaf - extendedBase).toNat = leaf.toNat - 0x80000000 := UInt32.toNat_sub_of_le _ _ hfirst
    rw [UInt32.le_iff_toNat_le, hbase] at hfirst
    have hroom : leaf.toNat - 0x80000000 < 32 ↔ leaf.toNat < 0x80000020 := by omega
    simp only [hindex, hroom, UInt32.le_iff_toNat_le (a := extendedBase), hbase, hfirst, true_and, and_comm]
  · rw [if_neg fun h => hfirst h.1.1, if_neg fun h => hfirst (UInt32.le_iff_toNat_le.2 h.1)]

/-- After edits each place holds the last value that was written to it, and nothing else shows. -/
structure Stored (edits : List SignatureEdit) : Prop where
  /-- A slot holds the last value written to it. -/
  slot : ∀ slot : Slot, (perform edits).x86 slot = last (slotValue? slot.group slot.index) edits
  /-- A register has the last value written to it. -/
  register : ∀ r, (perform edits).arm r = last (registerValue? r) edits
  /-- So it has in the fields in which the registers are kept. -/
  file : ∀ r, (performFile edits).get r = last (registerValue? r) edits
  /-- A basic leaf is found if there is room for it and the current leaf 0 reports it. -/
  basicLeaf : ∀ leaf, (perform edits).basicLeaf leaf =
    if leaf.toNat < 32 ∧ leaf ≤ highest (last (slotValue? .basic 0) edits) then last (slotValue? .basic leaf.toNat) edits
    else none
  /-- An extended leaf is found if there is room for it and the current first one reports it. -/
  extendedLeaf : ∀ leaf, (perform edits).extendedLeaf leaf =
    if 0x80000000 ≤ leaf.toNat ∧ leaf.toNat < 0x80000020 ∧ leaf ≤ highest (last (slotValue? .extended 0) edits) then
      last (slotValue? .extended (leaf.toNat - 0x80000000)) edits
    else none
  /-- The AArch64 registers are in view if one of them has a value. -/
  view : (perform edits).arm.hasAarch64View = true ↔
    ∃ r : ArmRegister, r.isAarch64Only = true ∧ (last (registerValue? r) edits).isSome = true

/-- A file shows AArch64 if a register that only AArch64 has is known. -/
theorem hasAarch64View_iff {regs : ArmRegisters} :
    regs.hasAarch64View = true ↔ ∃ r : ArmRegister, r.isAarch64Only = true ∧ (regs r).isSome = true := by
  simp only [ArmRegisters.hasAarch64View, List.any_eq_true, Bool.and_eq_true, ArmRegister.mem_all, true_and]

/-- A signature stores what is written to it without crosstalk: edits of leaves that there is no room for change nothing, and
after any edits each place holds the last value written to it. -/
theorem perform_stored :
    (∀ (s : Signature) (leaf : UInt32) (regs : Regs), 32 ≤ leaf.toNat → apply s (.basic leaf regs) = s) ∧
    (∀ (s : Signature) (leaf : UInt32) (regs : Regs), leaf.toNat < 0x80000000 ∨ 0x8000001F < leaf.toNat →
      apply s (.extended leaf regs) = s) ∧
    ∀ edits : List SignatureEdit, Stored edits :=
  ⟨fun s _ regs h => apply_basic_of_le s h regs, fun s _ regs h => apply_extended_of_not_mem s h regs, fun edits =>
    { slot := x86_perform edits
      register := arm_perform edits
      file := get_performFile edits
      basicLeaf := basicLeaf_perform edits
      extendedLeaf := extendedLeaf_perform edits
      view := by simp only [hasAarch64View_iff, arm_perform] }⟩

/-- Leaves just past both ranges leave nothing behind; a leaf that was stored before the first one reports it is found once
it is reported, and is lost from view when the first one is written again with a lower number. -/
theorem perform_stored_at_bounds :
    apply .empty (.basic 32 ⟨1, 2, 3, 4⟩) = .empty ∧
    apply .empty (.extended 0x7FFFFFFF ⟨1, 2, 3, 4⟩) = .empty ∧
    (perform [.extended 0x80000001 ⟨1, 2, 3, 4⟩, .extended 0x80000000 ⟨0x80000001, 0, 0, 0⟩]).extendedLeaf 0x80000001 =
      some ⟨1, 2, 3, 4⟩ ∧
    (perform [.extended 0x80000001 ⟨1, 2, 3, 4⟩, .extended 0x80000000 ⟨0x80000001, 0, 0, 0⟩,
      .extended 0x80000000 ⟨0x80000000, 0, 0, 0⟩]).extendedLeaf 0x80000001 = none :=
  ⟨perform_stored.1 _ 32 _ (by decide), perform_stored.2.1 _ 0x7FFFFFFF _ (by decide),
    ((perform_stored.2.2 _).extendedLeaf _).trans (by decide), ((perform_stored.2.2 _).extendedLeaf _).trans (by decide)⟩

end
end SignatureEdit
end CpuIdent
