import CpuIdent.Register.Quantity
import CpuIdent.Text.Numeral

/-!
# Values on the command line

The values that options and positional arguments take, each read from one word of the command line, and what can be wrong with a
command line.
-/

namespace CpuIdent
namespace CommandLine

/-- Why a command line is not carried out. The first two are asked for; the others are mistakes. -/
inductive UsageError where
  | displayHelp
  | displayVersion
  /-- Nothing is given where a command is due. -/
  | nothingGiven
  | missingSubcommand
  | missingArgument
  | unknownArgument
  | invalidSubcommand
  /-- An option has no value, or an empty one where that is not allowed. -/
  | noValue
  /-- A value cannot be read. -/
  | badValue
  /-- An option is given twice. -/
  | repeated
  /-- A flag is given a value. -/
  | valueForFlag
  deriving DecidableEq, Repr

/-- The name of a usage error. -/
def UsageError.name : UsageError → String
  | displayHelp => "DisplayHelp"
  | displayVersion => "DisplayVersion"
  | nothingGiven => "DisplayHelpOnMissingArgumentOrSubcommand"
  | missingSubcommand => "MissingSubcommand"
  | missingArgument => "MissingRequiredArgument"
  | unknownArgument => "UnknownArgument"
  | invalidSubcommand => "InvalidSubcommand"
  | noValue => "InvalidValue"
  | badValue => "ValueValidation"
  | repeated => "ArgumentConflict"
  | valueForFlag => "TooManyValues"

/-- A value as it was read. -/
inductive ArgValue where
  | flag
  | text (s : String)
  | number (n : Nat)
  /-- The bits `high` down to `low`. -/
  | range (high low : UInt8)
  | quantity (q : Quantity)
  deriving DecidableEq, Repr

/-! ## Registers and bits -/

/-- The index of a model-specific register, in hexadecimal behind `0x` and in decimal else, or what is wrong with it. -/
def readMsrIndex (s : List Char) : Except String UInt32 :=
  let s := Text.trim s
  let digits := (Text.after? ['0', 'x'] s).or (Text.after? ['0', 'X'] s)
  let read := match digits with
    | some ds => Text.readNat 16 (Text.maxOfBits 32) ds
    | none => Text.readNat 10 (Text.maxOfBits 32) s
  match read with
  | .ok n => .ok (UInt32.ofNat n)
  | .error e => .error ("invalid MSR index '" ++ String.ofList s ++ "': " ++ e.message)

/-- The number of a bit, or what is wrong with it. -/
def readBit (s : List Char) : Except Text.NumeralError UInt8 :=
  match Text.readNat 10 (Text.maxOfBits 8) (Text.trim s) with
  | .ok n => .ok (UInt8.ofNat n)
  | .error e => .error e

/-- The highest and the lowest bit of a range with a colon between them, or what is wrong with it. -/
def readBitRange (s : List Char) : Except String (UInt8 × UInt8) :=
  match Text.cut? ':' s with
  | none => .error ("expected HIGH:LOW, got '" ++ String.ofList s ++ "'")
  | some (high, low) =>
    match readBit high, readBit low with
    | .error e, _ => .error ("bad high bit: " ++ e.message)
    | .ok _, .error e => .error ("bad low bit: " ++ e.message)
    | .ok high, .ok low => .ok (high, low)

/-! ## Readers -/

/-- How a word is read as a value. -/
abbrev Reader := List Char → Except UsageError ArgValue

/-- A reading whose every mistake is a bad value. -/
def orBadValue {ε α : Type} (value : α → ArgValue) : Except ε α → Except UsageError ArgValue
  | .ok a => .ok (value a)
  | .error _ => .error .badValue

/-- Any text. -/
def text : Reader := fun s => .ok (.text (String.ofList s))

/-- The path of a file, which may not be empty. -/
def path : Reader := fun s => if s.isEmpty then .error .noValue else text s

/-- An unsigned number of 64 bits. -/
def number64 : Reader := fun s => orBadValue .number (Text.readNat 10 (Text.maxOfBits 64) s)

/-- An unsigned number of 32 bits; zero may have a minus sign. -/
def number32 : Reader := fun s =>
  match Text.after? ['-'] s with
  | some ds => if ds.head? = some '+' then .error .badValue else orBadValue .number (Text.readNat 10 0 ds)
  | none => orBadValue .number (Text.readNat 10 (Text.maxOfBits 32) s)

/-- The index of a model-specific register. -/
def msrIndex : Reader := fun s => orBadValue (fun n => .number n.toNat) (readMsrIndex s)

/-- A range of bits. -/
def bitRange : Reader := fun s => orBadValue (fun r => .range r.1 r.2) (readBitRange s)

/-- A derived quantity. -/
def quantity : Reader := fun s => orBadValue .quantity (Quantity.ofName (String.ofList s))

end CommandLine
end CpuIdent
