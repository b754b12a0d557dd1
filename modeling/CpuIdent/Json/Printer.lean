import CpuIdent.Json.Basic

/-!
# Writing JSON

Two layouts: everything on one line without spaces, or one item a line, indented by two spaces for each level.
-/

namespace CpuIdent
namespace Json

/-- How a value is laid out. -/
inductive Layout where
  | compact
  | pretty
  deriving DecidableEq, Repr

namespace Layout

/-- What stands before an item at a depth. -/
def lineBreak (depth : Nat) : Layout → List Char
  | compact => []
  | pretty => '\n' :: List.replicate (2 * depth) ' '

/-- What stands between a key and its value. -/
def colon : Layout → List Char
  | compact => [':']
  | pretty => [':', ' ']

end Layout

/-- A code unit as an escape. -/
def writeUnit (n : Nat) : List Char := '\\' :: 'u' :: Text.hexFixed 4 n

/-- A character inside quotes: quotes, backslashes and control characters are escaped, the common ones by a letter. -/
def writeChar (c : Char) : List Char :=
  if c = '"' then ['\\', '"']
  else if c = '\\' then ['\\', '\\']
  else if c = '\n' then ['\\', 'n']
  else if c = '\r' then ['\\', 'r']
  else if c = '\t' then ['\\', 't']
  else if c.toNat = 8 then ['\\', 'b']
  else if c.toNat = 12 then ['\\', 'f']
  else if c.toNat < 0x20 then writeUnit c.toNat
  else [c]

/-- An element of a string inside quotes. -/
def writeElement : JsonChar → List Char
  | .char c => writeChar c
  | .unit n => writeUnit n

/-- A string in quotes. -/
def writeString (s : JsonString) : List Char := '"' :: (s.flatMap writeElement ++ ['"'])

mutual

/-- A value at a depth. -/
def writeAt (l : Layout) (depth : Nat) : Json → List Char
  | null => ['n', 'u', 'l', 'l']
  | bool true => ['t', 'r', 'u', 'e']
  | bool false => ['f', 'a', 'l', 's', 'e']
  | number written => written
  | string s => writeString s
  | array [] => ['[', ']']
  | array (v :: vs) =>
    '[' :: (l.lineBreak (depth + 1) ++ (writeAt l (depth + 1) v ++ (writeItems l depth vs ++ (l.lineBreak depth ++ [']']))))
  | object [] => ['{', '}']
  | object ((k, v) :: ms) =>
    '{' :: (l.lineBreak (depth + 1) ++ (writeString k ++ (l.colon ++ (writeAt l (depth + 1) v ++
      (writeMembers l depth ms ++ (l.lineBreak depth ++ ['}']))))))

/-- The items of an array after the first. -/
def writeItems (l : Layout) (depth : Nat) : List Json → List Char
  | [] => []
  | v :: vs => ',' :: (l.lineBreak (depth + 1) ++ (writeAt l (depth + 1) v ++ writeItems l depth vs))

/-- The members of an object after the first. -/
def writeMembers (l : Layout) (depth : Nat) : List (JsonString × Json) → List Char
  | [] => []
  | (k, v) :: ms =>
    ',' :: (l.lineBreak (depth + 1) ++ (writeString k ++ (l.colon ++ (writeAt l (depth + 1) v ++ writeMembers l depth ms))))

end

/-- The text of a value. -/
def write (l : Layout) (v : Json) : String := String.ofList (writeAt l 0 v)

end Json
end CpuIdent
