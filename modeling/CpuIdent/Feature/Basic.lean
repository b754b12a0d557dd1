/-!
# Feature flags

A closed enumeration of features and sets of them. A set is one bit per feature, so two sets with the same members are equal, and
its members are listed in the order of the enumeration.
-/

namespace CpuIdent

/-- A closed enumeration of features: each has a place in the list of all of them, and a lower-case name. -/
class Feature (F : Type) where
  /-- Every feature, in order. -/
  all : List F
  /-- The place of a feature in `all`. -/
  index : F → Nat
  /-- The name of a feature in listings. -/
  name : F → String
  /-- A feature stands at its place. -/
  all_index : ∀ f, all[index f]? = some f
  /-- No feature stands at two places. -/
  index_all : ∀ (i : Nat) (h : i < all.length), index all[i] = i

namespace Feature

/-- How many features there are. -/
def count (F : Type) [Feature F] : Nat := (all (F := F)).length

/-- The feature with this name. -/
def ofName? {F : Type} [Feature F] (wanted : String) : Option F := all.find? fun f => name f == wanted

variable {F : Type} [Feature F]

/-- An index is within the list. -/
theorem index_lt (f : F) : index f < count F := (List.getElem?_eq_some_iff.1 (all_index f)).1

/-- Every feature is listed. -/
theorem mem_all (f : F) : f ∈ all (F := F) := List.mem_of_getElem? (all_index f)

/-- No two features have the same index. -/
theorem index_injective {f g : F} (h : index f = index g) : f = g := by
  have hf := all_index f
  rw [h, all_index g] at hf
  exact (Option.some.inj hf).symm

/-- Features are the same just if their indices are. -/
theorem index_inj {f g : F} : index f = index g ↔ f = g := ⟨index_injective, congrArg index⟩

end Feature

/-- A set of features, one bit each. -/
@[ext] structure FeatureSet (F : Type) [Feature F] where
  /-- Bit `i` tells whether the feature at place `i` is in the set. -/
  bits : BitVec (Feature.count F)
  deriving DecidableEq

namespace FeatureSet

variable {F : Type} [Feature F]

/-- The set without members. -/
def empty : FeatureSet F := ⟨0⟩

instance : EmptyCollection (FeatureSet F) := ⟨empty⟩

instance : Inhabited (FeatureSet F) := ⟨empty⟩

/-- Whether a feature is in the set. -/
def contains (s : FeatureSet F) (f : F) : Bool := s.bits.getLsbD (Feature.index f)

instance : Membership F (FeatureSet F) := ⟨fun s f => s.contains f = true⟩

instance (s : FeatureSet F) (f : F) : Decidable (f ∈ s) := inferInstanceAs (Decidable (s.contains f = true))

/-- The set with a feature added. -/
def insert (s : FeatureSet F) (f : F) : FeatureSet F := ⟨s.bits ||| BitVec.twoPow _ (Feature.index f)⟩

/-- The set with a feature taken out. -/
def erase (s : FeatureSet F) (f : F) : FeatureSet F := ⟨s.bits &&& ~~~BitVec.twoPow _ (Feature.index f)⟩

/-- The set with a feature added if it is present. -/
def insertIf (s : FeatureSet F) (f : F) (present : Bool) : FeatureSet F := if present then s.insert f else s

/-- The set of the features in a list. -/
def ofList (fs : List F) : FeatureSet F := fs.foldl insert empty

/-- Whether every feature of a list is in the set. -/
def containsAll (s : FeatureSet F) (fs : List F) : Bool := fs.all s.contains

/-- The number of ones among the `w` low bits of `n`. -/
def ones : (w n : Nat) → Nat
  | 0, _ => 0
  | w + 1, n => n % 2 + ones w (n / 2)

/-- The number of members. -/
def size (s : FeatureSet F) : Nat := ones (Feature.count F) s.bits.toNat

/-- Whether the set has no members. -/
def isEmpty (s : FeatureSet F) : Bool := s.bits == 0

/-- The members, in the order of the enumeration. -/
def toList (s : FeatureSet F) : List F := Feature.all.filter s.contains

/-- The names of the members, in the order of the enumeration. -/
def names (s : FeatureSet F) : List String := s.toList.map Feature.name

/-- Adds every feature whose bit is set in a register word. -/
def addMatches (s : FeatureSet F) (table : List (Nat × F)) (word : UInt32) : FeatureSet F :=
  table.foldl (fun s row => s.insertIf row.2 ((word >>> UInt32.ofNat row.1) &&& 1 == 1)) s

/-! ## What the operations do to membership -/

theorem mem_def {s : FeatureSet F} {f : F} : f ∈ s ↔ s.contains f = true := Iff.rfl

/-- The empty set has no feature. -/
@[simp] theorem contains_empty (f : F) : (empty : FeatureSet F).contains f = false := by
  simp [empty, contains]

/-- An insertion adds one feature and keeps the others. -/
@[simp] theorem contains_insert (s : FeatureSet F) (f g : F) :
    (s.insert f).contains g = (s.contains g || decide (Feature.index f = Feature.index g)) := by
  simp [contains, insert, BitVec.getLsbD_or, BitVec.getLsbD_twoPow, Feature.index_lt f]

/-- A removal takes one feature and keeps the others. -/
@[simp] theorem contains_erase (s : FeatureSet F) (f g : F) :
    (s.erase f).contains g = (s.contains g && !decide (Feature.index f = Feature.index g)) := by
  simp [contains, erase, Feature.index_lt, eq_comm]

/-- The members after an insertion. -/
theorem mem_insert {s : FeatureSet F} {f g : F} : g ∈ s.insert f ↔ g = f ∨ g ∈ s := by
  rw [mem_def, contains_insert, mem_def]
  simp [Feature.index_inj, or_comm, eq_comm (a := f)]

/-- The members after a removal. -/
theorem mem_erase {s : FeatureSet F} {f g : F} : g ∈ s.erase f ↔ g ∈ s ∧ g ≠ f := by
  rw [mem_def, contains_erase, mem_def]
  simp [Feature.index_inj, eq_comm (a := f)]

/-- A feature is inserted under a condition: it is a member if it was, or if the condition holds. -/
theorem contains_insertIf (s : FeatureSet F) (f g : F) (present : Bool) :
    (s.insertIf f present).contains g = true ↔ s.contains g = true ∨ f = g ∧ present = true := by
  cases present with
  | false => simp [insertIf]
  | true => simp [insertIf, Feature.index_inj]

/-- Adding the present ones among listed features adds exactly these. -/
theorem contains_foldl_insertIf {α : Type} (feature : α → F) (present : α → Bool) (rows : List α) (s : FeatureSet F) (f : F) :
    (rows.foldl (fun s row => s.insertIf (feature row) (present row)) s).contains f = true ↔
      s.contains f = true ∨ ∃ row ∈ rows, feature row = f ∧ present row = true := by
  induction rows generalizing s with
  | nil => simp
  | cons row rows ih =>
    rw [List.foldl_cons, ih, contains_insertIf, or_assoc]
    simp only [List.mem_cons, exists_eq_or_imp]

end FeatureSet
end CpuIdent
