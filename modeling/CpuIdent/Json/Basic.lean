import CpuIdent.Text.Numeral

/-!
# JSON values

A value as JSON writes it. A string may name code units that make up no character, and a number is kept as its digits, so that
every well-formed text has a value. Which of them can be read as a text or a truth value is a second question.
-/

namespace CpuIdent

/-- One element of a JSON string: a character, or a UTF-16 code unit written as a number. -/
inductive JsonChar where
  | char (c : Char)
  | unit (n : Nat)
  deriving DecidableEq, Repr

/-- A JSON string, element by element. -/
abbrev JsonString := List JsonChar

namespace JsonString

/-- A text as a JSON string. -/
def ofText (s : List Char) : JsonString := s.map .char

/-- The character that a pair of code units makes up, the high one first. -/
def pairChar (high low : Nat) : Char := Char.ofNat (0x10000 + (high - 0xD800) * 0x400 + (low - 0xDC00))

/-- The text of a JSON string, if its code units make up characters: one by itself outside the surrogate range, and a high surrogate
together with a low one. -/
def text? : JsonString → Option (List Char)
  | [] => some []
  | .char c :: rest => (text? rest).map (c :: ·)
  | .unit high :: .unit low :: rest =>
    if high < 0xD800 ∨ 0xE000 ≤ high then (text? (.unit low :: rest)).map (Char.ofNat high :: ·)
    else if high < 0xDC00 ∧ 0xDC00 ≤ low ∧ low < 0xE000 then (text? rest).map (pairChar high low :: ·)
    else none
  | .unit n :: rest => if n < 0xD800 ∨ 0xE000 ≤ n then (text? rest).map (Char.ofNat n :: ·) else none

/-- A string of characters alone has its characters as text. -/
@[simp] theorem text?_ofText (s : List Char) : text? (ofText s) = some s := by
  induction s with
  | nil => rfl
  | cons c cs ih => simp_all [ofText, text?]

end JsonString

/-- A JSON value. -/
inductive Json where
  | null
  | bool (b : Bool)
  /-- A number by its written form. -/
  | number (written : List Char)
  | string (s : JsonString)
  | array (items : List Json)
  /-- The members of an object in order; a key may occur again. -/
  | object (members : List (JsonString × Json))

namespace Json

/-- A text as a value. -/
def text (s : String) : Json := string (JsonString.ofText s.toList)

/-- An integer as a value. -/
def int (i : Int) : Json := number (Text.decimalInt i)

/-- A natural number as a value. -/
def nat (n : Nat) : Json := number (Text.decimal n)

/-- A value that may be missing, with null in its place. -/
def option {α : Type} (write : α → Json) : Option α → Json
  | some a => write a
  | none => null

/-- An object with these keys. -/
def record (members : List (String × Json)) : Json := object (members.map fun (k, v) => (JsonString.ofText k.toList, v))

/-! ## Reading a value -/

/-- The text of a string value. -/
def asText? : Json → Option String
  | string s => (JsonString.text? s).map String.ofList
  | _ => none

/-- The truth value. -/
def asBool? : Json → Option Bool
  | bool b => some b
  | _ => none

/-- A value that may be null. -/
def asOption? {α : Type} (read : Json → Option α) : Json → Option (Option α)
  | null => some none
  | v => (read v).map some

/-- The values given for the fields of a record, in the order of `names`. An object gives each of them at most once and may have
other members, whose keys must be texts; an array gives the first of them in order, and nothing else. -/
def fields? (names : List String) : Json → Option (List (Option Json))
  | object members => do
    let keyed ← members.mapM fun (k, v) => (JsonString.text? k).map fun t => (String.ofList t, v)
    names.mapM fun n =>
      match keyed.filter fun m => m.1 == n with
      | [] => some none
      | [m] => some (some m.2)
      | _ => none
  | array items =>
    if items.length ≤ names.length then some ((List.range names.length).map fun i => items[i]?) else none
  | _ => none

/-- A field of a record, with a value for when it is missing. -/
def field? {α : Type} (read : Json → Option α) (missing : α) : Option Json → Option α
  | some v => read v
  | none => some missing

end Json
end CpuIdent
