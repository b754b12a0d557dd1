import CpuIdent.Error
import CpuIdent.Signature.Basic

/-!
# What reading a snapshot gives

The signature found, the version stated, and warnings about lines that were left out. A snapshot may also be refused, with the
number of a line and what is wrong there.
-/

namespace CpuIdent
namespace Snapshot

/-- A remark about a line, counted from one, that was not taken into the signature. -/
structure Warning where
  line : Nat
  message : String
  deriving DecidableEq, Repr

/-- The result of reading a snapshot. -/
structure Reading where
  signature : Signature
  version : Option String
  warnings : List Warning

/-- The reading of a text without lines. -/
def Reading.empty : Reading := ⟨.empty, none, []⟩

/-- The reading with one more warning. -/
def Reading.warn (r : Reading) (line : Nat) (message : List Char) : Reading :=
  { r with warnings := r.warnings ++ [⟨line, String.ofList message⟩] }

/-- What is wrong with a line. -/
inductive Fault where
  /-- The line has no equals sign. -/
  | missingEquals (line : List Char)
  /-- A bracket of the key is opened and not closed after that. -/
  | unterminatedIndex (key : List Char)
  /-- The text between the brackets is no index. -/
  | badIndex (key : List Char)
  /-- An x86 group is named without an index. -/
  | needsIndex (group : Group)
  /-- An x86 group has no slot with this index. -/
  | slotOutOfRange (group : Group) (index : Nat)
  /-- An ARM group has no register with this index, or none without one. -/
  | registerOutOfRange (group : List Char) (index : Option Nat)
  /-- The value has not the number of words it needs. -/
  | wrongCount (expected found : Nat)
  /-- A word of the value is no hexadecimal number of the right size. -/
  | badHex (word : List Char)
  deriving DecidableEq

/-- A text in single quotes. -/
def quoted (s : List Char) : String := "'" ++ String.ofList s ++ "'"

/-- The wording of a fault. -/
def Fault.message : Fault → String
  | missingEquals line => "missing '=' in " ++ quoted line
  | unterminatedIndex key => "unterminated index in " ++ quoted key
  | badIndex key => "bad index in " ++ quoted key
  | needsIndex group => quoted group.key.toList ++ " needs an index"
  | slotOutOfRange group index =>
    "index " ++ String.ofList (Text.decimal index) ++ " out of range for " ++ group.key ++ " (max " ++
      String.ofList (Text.decimal (group.size - 1)) ++ ")"
  | registerOutOfRange group index =>
    let shown := match index with
      | some i => "Some(" ++ String.ofList (Text.decimal i) ++ ")"
      | none => "None"
    "index " ++ shown ++ " out of range for " ++ String.ofList group
  | wrongCount expected found =>
    "expected " ++ String.ofList (Text.decimal expected) ++ (if expected = 1 then " value" else " values") ++ ", found " ++
      String.ofList (Text.decimal found)
  | badHex word => "bad hex value " ++ quoted word

/-- A fault at a line, as an error. -/
def Fault.toError (line : Nat) (fault : Fault) : Error := .badFormat line fault.message

/-- The line that ends the register part of a snapshot: eighty dashes. -/
def endMarker : List Char := List.replicate 80 '-'

/-- The lines of a text without the blanks around them, each with its number counted from one. -/
def numberedLines (text : List Char) : List (Nat × List Char) :=
  ((Text.lines text).map Text.trim).zipIdx.map fun (l, i) => (i + 1, l)

end Snapshot
end CpuIdent
