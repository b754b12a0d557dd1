import CpuIdent.Snapshot.Reading

/-!
# Reading native snapshots

Lines `key=value` under the keys that `Signature.write` writes, and a legacy spelling of ARM keys with the index directly behind
the group name. Lines with an unknown key are left out with a warning. Reading ends at the end marker, or at the separator of a
logical CPU other than the first.
-/

namespace CpuIdent
namespace Snapshot
namespace Native

/-- A key: the name before the index, and the index if there is one. -/
structure Key where
  name : List Char
  index : Option Nat
  deriving DecidableEq

/-- The legacy spelling of an ARM key: a group name directly followed by digits. -/
def legacyKey? (key : List Char) : Option Key :=
  let digits := (key.reverse.takeWhile Char.isDigit).reverse
  let name := (key.reverse.dropWhile Char.isDigit).reverse
  if digits ≠ [] ∧ (Text.after? "arm_".toList key).isSome ∧ ArmRegister.isGroup name then
    (Text.readDecimal64? digits).map fun i => ⟨name, some i⟩
  else none

/-- Reads a key: `name[index]`, the legacy spelling, or a bare name. Text behind the bracket is not looked at. -/
def readKey (key : List Char) : Except Fault Key :=
  match Text.cut? '[' key with
  | some (name, rest) =>
    if name.contains ']' then .error (.unterminatedIndex key)
    else match Text.cut? ']' rest with
      | none => .error (.unterminatedIndex key)
      | some (inner, _) =>
        match Text.readDecimal64? (Text.trim inner) with
        | some i => .ok ⟨Text.trim name, some i⟩
        | none => .error (.badIndex key)
  | none => .ok ((legacyKey? key).getD ⟨key, none⟩)

/-- A word without the marks `0x` before it. -/
def dropMarks : List Char → List Char
  | '0' :: 'x' :: cs => dropMarks cs
  | cs => cs

/-- Reads a hexadecimal word of a value, at most 32 bits wide. -/
def readWord32 (word : List Char) : Except Fault UInt32 :=
  match Text.readHex32? (dropMarks word) with
  | some v => .ok v
  | none => .error (.badHex word)

/-- Reads a hexadecimal word of a value, at most 64 bits wide. -/
def readWord64 (word : List Char) : Except Fault UInt64 :=
  match Text.readHex64? (dropMarks word) with
  | some v => .ok v
  | none => .error (.badHex word)

/-- Reads the value of an x86 slot: four words. -/
def readRegs (value : List Char) : Except Fault Regs :=
  match Text.words value with
  | [a, b, c, d] => return ⟨← readWord32 a, ← readWord32 b, ← readWord32 c, ← readWord32 d⟩
  | ws => .error (.wrongCount 4 ws.length)

/-- Reads the value of an ARM register: one word. -/
def readRegister (value : List Char) : Except Fault UInt64 :=
  match Text.words value with
  | [w] => readWord64 w
  | ws => .error (.wrongCount 1 ws.length)

/-- What a line says. -/
inductive Entry where
  | version (text : List Char)
  | slot (place : Slot) (regs : Regs)
  | register (r : ArmRegister) (value : UInt64)
  /-- The key names nothing known. -/
  | unknown (key : List Char)

/-- Reads the entry that a key and its value make. -/
def readEntry (key value : List Char) : Except Fault Entry :=
  if key = "version".toList then .ok (.version value)
  else do
    let k ← readKey key
    match Group.ofKey? k.name with
    | some g =>
      match k.index with
      | none => .error (.needsIndex g)
      | some i =>
        match g.slot? i with
        | none => .error (.slotOutOfRange g i)
        | some slot => return .slot slot (← readRegs value)
    | none =>
      match ArmRegister.ofKey? k.name k.index with
      | some r => return .register r (← readRegister value)
      | none =>
        if ArmRegister.isGroup k.name then .error (.registerOutOfRange k.name k.index)
        else .ok (.unknown key)

/-- Reads the entry of a line. -/
def readLine (line : List Char) : Except Fault Entry :=
  match Text.cut? '=' line with
  | some (key, value) => readEntry (Text.trim key) (Text.trim value)
  | none => .error (.missingEquals line)

/-- The reading with the entry of a line taken in. -/
def Entry.addTo (number : Nat) (r : Reading) : Entry → Reading
  | .version text => { r with version := some (String.ofList text) }
  | .slot place regs => { r with signature := r.signature.setSlot place (some regs) }
  | .register reg value => { r with signature := r.signature.setArm reg (some value) }
  | .unknown key => r.warn number (quoted key ++ " not understood, line skipped").toList

/-- The number of the logical CPU that a separator line announces. -/
def separator? (line : List Char) : Option Nat :=
  let inner := (Text.dropTrailing '_' (line.dropWhile (· == '_')))
  (Text.after? "Logical CPU #".toList (Text.trim inner)).bind fun rest => Text.readDecimal32? (Text.trim rest)

/-- What a line is to the reader. -/
inductive LineKind where
  /-- The line is blank, or separates off the first logical CPU. -/
  | skipped
  /-- The line is the end marker. -/
  | last
  /-- The line separates off another logical CPU. -/
  | otherCpu (n : Nat)
  /-- The line should hold an entry. -/
  | entry
  deriving DecidableEq

/-- Classifies a trimmed line. -/
def lineKind (line : List Char) : LineKind :=
  if line = [] then .skipped
  else if line = endMarker then .last
  else if line.head? = some '_' then
    match separator? line with
    | some 0 => .skipped
    | some n => .otherCpu n
    | none => .entry
  else .entry

/-- Reads numbered lines into a reading, up to the first fault. -/
def readLines : Reading → List (Nat × List Char) → Except (Nat × Fault) Reading
  | r, [] => .ok r
  | r, (number, line) :: rest =>
    match lineKind line with
    | .skipped => readLines r rest
    | .last => .ok r
    | .otherCpu n =>
      .ok (r.warn number ("only logical CPU #0 is read, ignoring CPU #".toList ++ Text.decimal n ++ " and later".toList))
    | .entry =>
      match readLine line with
      | .error fault => .error (number, fault)
      | .ok e => readLines (e.addTo number r) rest

/-- Reads a native snapshot. -/
def read (text : List Char) : Except (Nat × Fault) Reading := readLines .empty (numberedLines text)

end Native
end Snapshot
end CpuIdent
