import CpuIdent.Proofs.Feature.Words
import Mathlib.Data.Finset.Insert

/-!
# Editing feature sets

Flags are set, cleared, and set if they are present. What one edit does to a set of features it does to the finite set of
the members (`contains_apply`) and to the words that store the set (`stores_apply`), and so do runs of them. After any run
the set is that of the members, and which run led to them does not matter (`perform_faithful`).
-/

namespace CpuIdent

/-- A change of a set of features. -/
inductive FeatureEdit (F : Type) where
  | set (f : F)
  | clear (f : F)
  | insertIf (f : F) (present : Bool)

namespace FeatureEdit

section

variable {F : Type} [Feature F]

/-- A set of features after an edit. -/
def apply (s : FeatureSet F) : FeatureEdit F → FeatureSet F
  | .set f => s.insert f
  | .clear f => s.erase f
  | .insertIf f present => s.insertIf f present

/-- The words that store a set, after an edit. -/
def applyWords (w : FlagWords) : FeatureEdit F → FlagWords
  | .set f => w.set (Feature.index f)
  | .clear f => w.clear (Feature.index f)
  | .insertIf f present => if present then w.set (Feature.index f) else w

/-- The members of a set, after an edit. -/
def applyMembers [DecidableEq F] (S : Finset F) : FeatureEdit F → Finset F
  | .set f => Insert.insert f S
  | .clear f => S.erase f
  | .insertIf f present => if present then Insert.insert f S else S

/-- The set of features that edits leave, from the empty one. -/
def perform (edits : List (FeatureEdit F)) : FeatureSet F := edits.foldl apply .empty

/-- The words that edits leave, from those without flags. -/
def performWords (edits : List (FeatureEdit F)) : FlagWords := edits.foldl applyWords .zero

/-- The members that edits leave, from none. -/
def members [DecidableEq F] (edits : List (FeatureEdit F)) : Finset F := edits.foldl applyMembers ∅

/-! ## Runs of edits -/

/-- An edit of the words is the edit of the set that they store. -/
theorem stores_apply (hcap : Feature.count F ≤ 256) {w : FlagWords} {s : FeatureSet F} (h : w.Stores s) (e : FeatureEdit F) :
    (applyWords w e).Stores (apply s e) := by
  cases e with
  | set f => exact h.set hcap f
  | clear f => exact h.clear f
  | insertIf f present =>
    cases present with
    | true => exact h.set hcap f
    | false => exact h

/-- After any edits, the words store the set. -/
theorem stores_perform (hcap : Feature.count F ≤ 256) (edits : List (FeatureEdit F)) :
    (performWords edits).Stores (perform edits) :=
  List.foldl_rel (r := fun w s => FlagWords.Stores w s) FlagWords.stores_zero fun e _ _ _ h => stores_apply hcap h e

variable [DecidableEq F]

/-- An edit of the set is the edit of its members. -/
theorem contains_apply {s : FeatureSet F} {S : Finset F} (h : ∀ f, s.contains f = true ↔ f ∈ S) (e : FeatureEdit F) (f : F) :
    (apply s e).contains f = true ↔ f ∈ applyMembers S e := by
  have hinsert : ∀ g, (s.insert g).contains f = true ↔ f ∈ Insert.insert g S := fun g => by
    rw [Finset.mem_insert, ← h]
    exact FeatureSet.mem_insert
  cases e with
  | set g => exact hinsert g
  | clear g =>
    rw [apply, applyMembers, Finset.mem_erase, ← h, and_comm]
    exact FeatureSet.mem_erase
  | insertIf g present =>
    cases present with
    | true => exact hinsert g
    | false => exact h f

/-- After any edits, the set has the members that the edits leave. -/
theorem contains_perform (edits : List (FeatureEdit F)) (f : F) : (perform edits).contains f = true ↔ f ∈ members edits := by
  have hempty : ∀ f, (FeatureSet.empty : FeatureSet F).contains f = true ↔ f ∈ (∅ : Finset F) := fun f => by
    simp only [FeatureSet.contains_empty, Bool.false_eq_true, Finset.notMem_empty]
  exact List.foldl_rel (r := fun (s : FeatureSet F) (S : Finset F) => ∀ f, s.contains f = true ↔ f ∈ S) hempty
    (fun e _ _ _ h => contains_apply h e) f

/-- After edits everything is as their members say. -/
structure Faithful (edits : List (FeatureEdit F)) : Prop where
  /-- The set stands for its members: it answers, counts and lists as they do. -/
  represents : (perform edits).Represents (members edits)
  /-- The words that are edited alongside store the set, and hold no other flag. -/
  stores : (performWords edits).Stores (perform edits)
  /-- The ones in the words count the members. -/
  len : (performWords edits).len = (members edits).card
  isEmpty : (performWords edits).isEmpty = true ↔ members edits = ∅
  /-- Other edits that leave the same members leave the same set, and the same words. -/
  determined : ∀ edits', members edits' = members edits →
    perform edits' = perform edits ∧ performWords edits' = performWords edits

/-- Words, set and set of members do the same under any edits, wherever they are looked at. -/
theorem faithful (hcap : Feature.count F ≤ 256) (hnames : ((Feature.all (F := F)).map Feature.name).Nodup)
    (edits : List (FeatureEdit F)) : Faithful edits := by
  have hrepresents := FeatureSet.represents hnames (contains_perform edits)
  have hstores := stores_perform hcap edits
  refine ⟨hrepresents, hstores, (hstores.len hcap).trans hrepresents.size, ?_, fun edits' hmembers => ?_⟩
  · rw [hstores.isEmpty]
    exact hrepresents.isEmpty
  · have hset : perform edits' = perform edits := FeatureSet.ext_contains fun f => by
      rw [Bool.eq_iff_iff, contains_perform, contains_perform, hmembers]
    have hstores' := stores_perform hcap edits'
    rw [hset] at hstores'
    exact ⟨hset, hstores'.unique hstores⟩

end

/-- Whatever edits are made of an empty set of x86 features, or of ARM features, the set that they leave stands for the finite
set of its members, as do the words that store it. -/
theorem perform_faithful :
    (∀ edits : List (FeatureEdit X86Feature), Faithful edits) ∧ ∀ edits : List (FeatureEdit ArmFeature), Faithful edits :=
  ⟨faithful (by decide +kernel) X86Feature.nodup_names, faithful (by decide +kernel) ArmFeature.nodup_names⟩

end FeatureEdit
end CpuIdent
