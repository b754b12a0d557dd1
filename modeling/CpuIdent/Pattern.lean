import CpuIdent.Text.Blank
import CpuIdent.Text.Cut

/-!
# Name patterns

Patterns over marketing names: a hash sign is any digit, a point is any character, a bracketed set is any one of the characters in
it, and everything else is itself, whatever its ASCII case. A pattern is searched for anywhere in a name. A brand string is cleaned
before that: the word part that every brand has is dropped, and blanks between words become one space.
-/

namespace CpuIdent

/-- One position of a pattern. -/
inductive Pattern.Item where
  | digit
  | any
  /-- One of these characters, ignoring ASCII case. -/
  | oneOf (set : List Char)
  /-- This character, ignoring ASCII case. -/
  | literal (c : Char)
  deriving DecidableEq, Repr

namespace Pattern

/-- Equality of characters up to ASCII case. -/
def sameLetter (a b : Char) : Bool := a.toLower == b.toLower

/-- Whether an item accepts a character. -/
def Item.accepts : Item → Char → Bool
  | .digit, c => c.isDigit
  | .any, _ => true
  | .oneOf set, c => set.any fun l => sameLetter l c
  | .literal l, c => sameLetter l c

/-- The items of a pattern, from left to right. A bracket that is never closed stands for itself. -/
def items : List Char → List Item
  | [] => []
  | '#' :: cs => .digit :: items cs
  | '.' :: cs => .any :: items cs
  | '[' :: cs =>
    match h : Text.cut? ']' cs with
    | some (set, rest) =>
      have : rest.length < cs.length := by
        obtain ⟨rfl, -⟩ := Text.cut?_eq_some.1 h
        simp only [List.length_append, List.length_cons]
        omega
      .oneOf set :: items rest
    | none => .literal '[' :: items cs
  | c :: cs => .literal c :: items cs
termination_by s => s.length

/-- Whether the items accept the first characters of the text, one each. -/
def startsAt : List Item → List Char → Bool
  | [], _ => true
  | _ :: _, [] => false
  | i :: is, c :: cs => i.accepts c && startsAt is cs

/-- The first offset at which the items accept the text, if there is one. -/
def offset? (is : List Item) : List Char → Option Nat
  | [] => if startsAt is [] then some 0 else none
  | c :: cs => if startsAt is (c :: cs) then some 0 else (offset? is cs).map (· + 1)

/-- The position, counted from one, at which the pattern first occurs in the subject, and zero if it does not occur. The empty
pattern occurs nowhere. -/
def find (subject pattern : List Char) : Nat :=
  match items pattern with
  | [] => 0
  | is => ((offset? is subject).map (· + 1)).getD 0

/-- Whether the pattern occurs in the subject. -/
def occursIn (pattern subject : List Char) : Bool := find subject pattern > 0

end Pattern

namespace Brand

/-- The text without the letters `CPU` wherever they stand together, found from left to right. -/
def dropCpu : List Char → List Char
  | 'C' :: 'P' :: 'U' :: cs => dropCpu cs
  | c :: cs => c :: dropCpu cs
  | [] => []

/-- A brand string ready to be matched: without `CPU`, its words separated by single spaces. -/
def clean (brand : List Char) : List Char := Text.unwords (Text.words (dropCpu brand))

end Brand
end CpuIdent
