import CpuIdent.Identity
import CpuIdent.Pattern

/-!
# Codename tables

A table of CPU models. Each row scores points for what it shares with an identity, and the first row with the most points names
the CPU. A field that a row leaves open neither gives nor takes points.
-/

namespace CpuIdent

/-- A pattern over the cleaned brand string, and the points it gives where it occurs. -/
structure BrandPattern where
  pattern : String
  weight : Int
  deriving DecidableEq, Repr

/-- One model of a codename table. -/
structure CodenameRow where
  family : Option Int := none
  model : Option Int := none
  stepping : Option Int := none
  extFamily : Option Int := none
  extModel : Option Int := none
  cores : Option Int := none
  /-- Size of the level-2 cache in kilobytes. -/
  l2 : Option Int := none
  /-- Size of the level-3 cache in kilobytes. -/
  l3 : Option Int := none
  brand : Option BrandPattern := none
  codename : String
  technology : String := ""
  deriving DecidableEq, Repr

namespace CodenameRow

/-- The points for a field: all of them if the row states the actual value, else none. -/
def points (stated : Option Int) (actual : Int) (value : Int) : Int :=
  match stated with
  | some n => if n = actual then value else 0
  | none => 0

/-- The points for the brand pattern, on a cleaned brand string. -/
def brandPoints (row : CodenameRow) (cleaned : List Char) : Int :=
  match row.brand with
  | some b => if Pattern.occursIn b.pattern.toList cleaned then b.weight else 0
  | none => 0

/-- The score of a row on an identity whose brand string is given cleaned. -/
def scoreCleaned (row : CodenameRow) (id : Identity) (cleaned : List Char) : Int :=
  points row.family id.family 2 + points row.model id.model 2 + points row.stepping id.stepping 2 +
    points row.extFamily id.extFamily 2 + points row.extModel id.extModel 2 + points row.cores id.cores 2 +
    points row.l2 id.caches.l2.sizeKb 1 + points row.l3 id.caches.l3.sizeKb 1 + row.brandPoints cleaned

/-- The score of a row on an identity. -/
def score (row : CodenameRow) (id : Identity) : Int := row.scoreCleaned id (Brand.clean id.brandText.toList)

end CodenameRow

namespace Codename

/-- The better of the best row so far and one more row: a row has to score more to take the place. -/
def better (score : CodenameRow → Int) (best : Option (CodenameRow × Int)) (row : CodenameRow) :
    Option (CodenameRow × Int) :=
  match best with
  | some (_, top) => if score row > top then some (row, score row) else best
  | none => some (row, score row)

/-- The first row with the highest score, and that score. -/
def best? (score : CodenameRow → Int) (table : List CodenameRow) : Option (CodenameRow × Int) :=
  table.foldl (better score) none

/-- The identity named by the best row of a table, and the score of that row; an empty table names nothing and scores -1. -/
def assign (table : List CodenameRow) (id : Identity) : Identity × Int :=
  let cleaned := Brand.clean id.brandText.toList
  match best? (fun row => row.scoreCleaned id cleaned) table with
  | some (row, top) => ({ id with codename := row.codename, technology := row.technology, matchScore := top }, top)
  | none => ({ id with matchScore := -1 }, -1)

/-- The names in a list, each at its first occurrence only. -/
def distinct (names : List String) : List String :=
  names.foldl (fun kept n => if kept.contains n then kept else kept ++ [n]) []

/-- The codenames of a table, in table order. -/
def names (table : List CodenameRow) : List String := distinct (table.map CodenameRow.codename)

end Codename
end CpuIdent
