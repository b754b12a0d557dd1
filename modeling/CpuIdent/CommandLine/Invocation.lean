import CpuIdent.CommandLine.Level

/-!
# Invocations

What a command line asks for, once it was read: a command with its arguments, and the options that hold for every command. Of an
option given at several levels the one at the lowest level counts.
-/

namespace CpuIdent

/-- A command of the program. -/
inductive Task where
  /-- Print the identity of a snapshot or of this CPU. -/
  | identify (snapshot : Option String)
  /-- Write the signature of this CPU. -/
  | dump (output : Option String) (cpu : Option Nat)
  /-- List the features of a snapshot or of this CPU. -/
  | features (snapshot : Option String)
  /-- List the CPU names of a vendor. -/
  | list (vendor : String)
  /-- Read a model-specific register, or a range of its bits. -/
  | msrRead (index core : Nat) (range : Option (UInt8 × UInt8))
  /-- Derive a quantity. -/
  | msrInfo (which : Quantity) (core : Nat)
  /-- Print the clock. -/
  | clock
  /-- Print the hypervisor. -/
  | hypervisor
  deriving DecidableEq, Repr

/-- What a command line asks for. -/
structure Invocation where
  logLevel : Option String
  config : Option String
  compact : Bool
  noAutoLoad : Bool
  task : Task
  deriving DecidableEq, Repr

namespace CommandLine

/-- The value of an argument among those found; the last one counts. -/
def value? (found : List Found) (name : ArgName) : Option ArgValue :=
  (found.reverse.find? fun f => f.1 == name).map Prod.snd

/-- The text of an argument. -/
def text? (found : List Found) (name : ArgName) : Option String :=
  match value? found name with
  | some (.text s) => some s
  | _ => none

/-- The number of an argument. -/
def number? (found : List Found) (name : ArgName) : Option Nat :=
  match value? found name with
  | some (.number n) => some n
  | _ => none

/-- The range of an argument. -/
def range? (found : List Found) (name : ArgName) : Option (UInt8 × UInt8) :=
  match value? found name with
  | some (.range high low) => some (high, low)
  | _ => none

/-- The quantity of an argument. -/
def quantity? (found : List Found) (name : ArgName) : Option Quantity :=
  match value? found name with
  | some (.quantity q) => some q
  | _ => none

/-- The command that names lead to, with the arguments found at the last level. -/
def task? (commands : List String) (found : List Found) : Option Task :=
  match commands with
  | ["identify"] => some (.identify (text? found .snapshot))
  | ["dump"] => some (.dump (text? found .output) (number? found .cpu))
  | ["features"] => some (.features (text? found .snapshot))
  | ["list"] => (text? found .vendor).map .list
  | ["msr", "read"] =>
    (number? found .index).map fun index => .msrRead index ((number? found .core).getD 0) (range? found .range)
  | ["msr", "info"] => (quantity? found .which).map fun q => .msrInfo q ((number? found .core).getD 0)
  | ["clock"] => some .clock
  | ["hypervisor"] => some .hypervisor
  | _ => none

/-- What a reading asks for. -/
def invocation? (reading : Reading) : Option Invocation :=
  let found := reading.flatMap Prod.snd
  (task? (reading.tail.map Prod.fst) ((reading.getLast?.map Prod.snd).getD [])).map fun task => {
    logLevel := text? found .logLevel
    config := text? found .config
    compact := (value? found .compact).isSome
    noAutoLoad := (value? found .noAutoLoad).isSome
    task }

/-- Reads the words behind the program's name. -/
def parse (words : List String) : Except UsageError Invocation := do
  match invocation? (← read words) with
  | some i => .ok i
  | none => .error .missingSubcommand

end CommandLine
end CpuIdent
