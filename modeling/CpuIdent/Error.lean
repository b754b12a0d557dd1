import CpuIdent.Text.Numeral

/-!
# Errors

Everything that can fail, by cause. Decoding a signature never fails, so the causes are files, snapshots, settings and the
privileged register channel. `Error.message` words each of them.
-/

namespace CpuIdent

/-- Why an operation failed. -/
inductive Error where
  | noCpuid
  | noRdtsc
  | noRdmsr
  | noMemory
  /-- A file could not be opened or read; `reason` is the system's wording. -/
  | cannotOpen (path reason : String)
  /-- Line `line` of a snapshot, counted from one, is ill-formed. -/
  | badFormat (line : Nat) (reason : String)
  | io (reason : String)
  | json (reason : String)
  | config (reason : String)
  | noDriver (reason : String)
  | noPermission
  /-- The driver image could not be written to disk. -/
  | cannotExtract (reason : String)
  | invalidHandle
  | invalidMsr (index : UInt32) (reason : String)
  | invalidCore (core total : UInt32)
  | handleRead (reason : String)
  | invalidRange (high low : UInt8)
  | notFound (name : String)
  /-- The driver does not know the register with this request number. -/
  | invalidRequest (request : Int)
  | ioctl (reason : String)
  | notImplemented (what : String)
  deriving DecidableEq, Repr

namespace Error

/-- A decimal number as a string. -/
private def digits (n : Nat) : String := String.ofList (Text.decimal n)

/-- The wording of an error. -/
def message : Error → String
  | noCpuid => "CPUID instruction is not supported"
  | noRdtsc => "RDTSC instruction is not supported"
  | noRdmsr => "RDMSR instruction is not supported"
  | noMemory => "Memory allocation failed"
  | cannotOpen path reason => "File open operation failed for " ++ path ++ ": " ++ reason
  | badFormat line reason => "Bad file format at line " ++ digits line ++ ": " ++ reason
  | io reason => "I/O error: " ++ reason
  | json reason => "Failed to parse JSON: " ++ reason
  | config reason => "Configuration error: " ++ reason
  | noDriver reason => "RDMSR driver error: " ++ reason
  | noPermission => "No permissions to install RDMSR driver"
  | cannotExtract reason => "Cannot extract RDMSR driver (read only media?): " ++ reason
  | invalidHandle => "Bad handle"
  | invalidMsr index reason => "Invalid MSR 0x" ++ String.ofList (Text.hex index.toNat) ++ ": " ++ reason
  | invalidCore core total =>
    "Invalid core number " ++ digits core.toNat ++ " (system has " ++ digits total.toNat ++ " logical CPUs)"
  | handleRead reason => "Error on handle read: " ++ reason
  | invalidRange high low => "Invalid given range " ++ digits high.toNat ++ ":" ++ digits low.toNat
  | notFound name => "Requested type not found: " ++ name
  | invalidRequest request => "Invalid register request " ++ String.ofList (Text.decimalInt request)
  | ioctl reason => "ioctl failed: " ++ reason
  | notImplemented what => "Not implemented: " ++ what

/-- The underlying system error of an error that wraps one. -/
def source? : Error → Option String
  | cannotOpen _ reason | io reason | ioctl reason => some reason
  | _ => none

/-- Whether the error comes from the privileged register channel. -/
def isChannelError : Error → Bool
  | noRdmsr | noDriver _ | noPermission | cannotExtract _ | invalidHandle | invalidMsr .. | invalidCore .. | handleRead _
  | invalidRange .. | invalidRequest _ | ioctl _ => true
  | _ => false

end Error
end CpuIdent
