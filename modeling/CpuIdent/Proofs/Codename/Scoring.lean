import CpuIdent.Proofs.Codename.Choice
import CpuIdent.Proofs.Codename.Pattern
import Mathlib.Algebra.Ring.Int.Defs

/-!
# What a row scores

The score of a row, counted: two points for each field of the model on which row and identity agree, one for each cache
size, and the weight of the brand pattern if it occurs in the cleaned brand (`CodenameRow.score_eq`). A table names an
identity by the first row with the highest score, whatever its sign, and touches nothing but the name and the score
(`Codename.assign_first_best`).
-/

namespace CpuIdent

/-- A value that a row may state, and the value that the identity has. -/
structure FieldPair where
  stated : Option Int
  actual : Int

/-- The row states a value, and it is the actual one. -/
def FieldPair.Agrees (p : FieldPair) : Prop := p.stated = some p.actual

instance (p : FieldPair) : Decidable p.Agrees := inferInstanceAs (Decidable (p.stated = some p.actual))

/-- How many of the pairs agree. -/
def FieldPair.agreements (ps : List FieldPair) : Nat := ps.countP fun p => decide p.Agrees

namespace CodenameRow

variable (row : CodenameRow) (id : Identity)

/-- The fields that tell the model. -/
def modelFields : List FieldPair :=
  [⟨row.family, id.family⟩, ⟨row.model, id.model⟩, ⟨row.stepping, id.stepping⟩, ⟨row.extFamily, id.extFamily⟩,
    ⟨row.extModel, id.extModel⟩, ⟨row.cores, id.cores⟩]

/-- The cache sizes, in kilobytes. -/
def cacheFields : List FieldPair := [⟨row.l2, id.caches.l2.sizeKb⟩, ⟨row.l3, id.caches.l3.sizeKb⟩]

/-- The weight of the brand pattern, if the row has one that occurs in the cleaned brand. -/
def bonus : Int :=
  ((row.brand.filter fun b => Pattern.Occurs b.pattern.toList (Brand.clean id.brandText.toList)).map BrandPattern.weight).getD 0

/-- A field gives its points exactly if row and identity agree on it. -/
theorem points_eq (p : FieldPair) (value : Int) : points p.stated p.actual value = if p.Agrees then value else 0 := by
  obtain ⟨stated, actual⟩ := p
  cases stated with
  | none => simp [points, FieldPair.Agrees]
  | some n => simp [points, FieldPair.Agrees]

/-- Fields of one value give it once for each agreement. -/
theorem sum_points (ps : List FieldPair) (value : Int) :
    (ps.map fun p => points p.stated p.actual value).sum = value * FieldPair.agreements ps := by
  induction ps with
  | nil => simp [FieldPair.agreements]
  | cons p ps ih =>
    rw [List.map_cons, List.sum_cons, ih, points_eq, FieldPair.agreements, FieldPair.agreements, List.countP_cons]
    by_cases hp : p.Agrees
    · simp only [hp, decide_true, ↓reduceIte]
      push_cast
      rw [Int.mul_add, Int.mul_one, Int.add_comm]
    · simp [hp]

/-- The brand gives the weight of the pattern exactly if this occurs. -/
theorem brandPoints_eq_bonus : row.brandPoints (Brand.clean id.brandText.toList) = row.bonus id := by
  unfold brandPoints bonus
  cases row.brand with
  | none => rfl
  | some b =>
    simp only [Pattern.occursIn_iff]
    by_cases hb : Pattern.Occurs b.pattern.toList (Brand.clean id.brandText.toList)
    · simp [Option.filter, hb]
    · simp [Option.filter, hb]

/-- The score counts the agreements, and adds the weight of the brand pattern. -/
theorem score_eq : row.score id =
    2 * FieldPair.agreements (row.modelFields id) + FieldPair.agreements (row.cacheFields id) + row.bonus id := by
  have hmodel := sum_points (row.modelFields id) 2
  have hcache := sum_points (row.cacheFields id) 1
  simp only [modelFields, cacheFields, List.map_cons, List.map_nil, List.sum_cons, List.sum_nil] at hmodel hcache
  unfold score scoreCleaned
  rw [brandPoints_eq_bonus]
  unfold modelFields cacheFields
  omega

end CodenameRow

namespace Codename

/-- A table names an identity by the first of its rows with the highest score and answers that score; an empty table names
nothing and answers -1. Name, technology and score are written, and every other field stays. The score of any row is two points
for each agreement on the model, one for each on a cache size, and the weight of the brand pattern if it occurs. -/
theorem assign_first_best (table : List CodenameRow) (id : Identity) :
    (table = [] ∧ assign table id = ({ id with matchScore := -1 }, -1) ∨
      ∃ row, FirstBest (fun x => x.score id) table row ∧
        assign table id =
          ({ id with codename := row.codename, technology := row.technology, matchScore := row.score id }, row.score id)) ∧
    ∀ row : CodenameRow, row.score id =
      2 * FieldPair.agreements (row.modelFields id) + FieldPair.agreements (row.cacheFields id) + row.bonus id := by
  refine ⟨?_, fun row => row.score_eq id⟩
  by_cases htable : table = []
  · subst htable
    exact Or.inl ⟨rfl, rfl⟩
  · exact Or.inr (exists_assign_eq htable id)

/-- Where every row takes points away, the first of those that take the fewest names the CPU. -/
example :
    let (named, score) := assign [{ brand := some ⟨"X", -3⟩, codename := "a" }, { brand := some ⟨"n", -2⟩, codename := "b" },
      { brand := some ⟨"e", -2⟩, codename := "c" }] { Identity.unknown with brandText := "Xeon" }
    named.codename = "b" ∧ named.matchScore = -2 ∧ score = -2 := by
  decide +kernel

end Codename
end CpuIdent
