import CpuIdent.Json.Token

/-!
# Reading JSON

The second step: tokens put together, with the arrays and objects that are not yet closed on a stack. No depth is too great.
-/

namespace CpuIdent
namespace Json

/-- An array or object that is not yet closed, its finished parts in reverse. -/
inductive Frame where
  | array (items : List Json)
  | object (members : List (JsonString × Json)) (key : JsonString)

/-- How far reading has come. -/
inductive Progress where
  /-- A value is due; right after an opening bracket the array may end instead. -/
  | value (stack : List Frame) (first : Bool)
  /-- A key is due; right after an opening brace the object may end instead. -/
  | key (members : List (JsonString × Json)) (stack : List Frame) (first : Bool)
  /-- The colon after a key is due. -/
  | colon (members : List (JsonString × Json)) (key : JsonString) (stack : List Frame)
  /-- A value is complete; a separator or the end of what contains it is due. -/
  | complete (v : Json) (stack : List Frame)

namespace Progress

/-- Reads one more token, if it is one that is due. -/
def step : Progress → Token → Option Progress
  | value stack _, .scalar v => some (complete v stack)
  | value stack _, .beginArray => some (value (.array [] :: stack) true)
  | value stack _, .beginObject => some (key [] stack true)
  | value (.array items :: stack) true, .endArray => some (complete (Json.array items.reverse) stack)
  | key members stack _, .scalar (.string k) => some (colon members k stack)
  | key members stack true, .endObject => some (complete (Json.object members.reverse) stack)
  | colon members k stack, .colon => some (value (.object members k :: stack) false)
  | complete v (.array items :: stack), .comma => some (value (.array (v :: items) :: stack) false)
  | complete v (.array items :: stack), .endArray => some (complete (Json.array (v :: items).reverse) stack)
  | complete v (.object members k :: stack), .comma => some (key ((k, v) :: members) stack false)
  | complete v (.object members k :: stack), .endObject => some (complete (Json.object ((k, v) :: members).reverse) stack)
  | _, _ => none

/-- The value read, if nothing is left open. -/
def finish : Progress → Option Json
  | complete v [] => some v
  | _ => none

end Progress

/-- The value of a list of tokens. -/
def ofTokens? (ts : List Token) : Option Json := (ts.foldlM Progress.step (.value [] false)).bind Progress.finish

/-- The value that a text writes, if it is well-formed. -/
def parse? (s : String) : Option Json := (tokens? s.toList).bind ofTokens?

end Json
end CpuIdent
