import CpuIdent.Register.Channel

/-!
# Register devices

The driver behind a channel on a system where registers are read from a device file: where the file is, what has to be there
before it is opened, and what reading gives. The file has a content that is read at an offset; what the system answers to
control requests on it is a parameter.
-/

namespace CpuIdent
namespace Device

/-- How registers are read from a device. -/
inductive ReadMode where
  /-- Eight bytes at the offset that is the index of a model-specific register. -/
  | offset
  /-- A control request for a model-specific register. -/
  | msrRequest
  /-- A control request for an identification register. -/
  | armRequest
  deriving DecidableEq, Repr

/-- What the system answers to control requests on the file, or its wording of a failure. -/
structure Controls where
  /-- The value of a model-specific register. -/
  msr : UInt32 → Except String UInt64
  /-- The request number that the ARM driver echoes, and a value. -/
  arm : ArmRegister → Except String (Int × UInt64)

/-- The number that bytes stand for, lowest first. -/
def littleEndian (bytes : List UInt8) : UInt64 := bytes.foldr (fun b n => n <<< 8 ||| b.toUInt64) 0

/-- A model-specific register read at its offset in a file. -/
def readAt (image : List UInt8) (index : UInt32) : Except Error UInt64 :=
  let bytes := (image.drop index.toNat).take 8
  if bytes.length = 8 then .ok (littleEndian bytes)
  else .error (.invalidMsr index ("short read of " ++ String.ofList (Text.decimal bytes.length) ++ " bytes"))

/-- The request number that the ARM driver answers with for a register that it does not know. -/
def unknownRequest : Int := -1

/-- The value of a completed ARM request; the registers that AArch32 has too are 32 bits wide. -/
def armReply (r : ArmRegister) (echoed : Int) (value : UInt64) : Except Error UInt64 :=
  if echoed = unknownRequest then .error (.invalidRequest (Int.ofNat r.request))
  else .ok (if r.isAarch64Only then value else value &&& 0xFFFFFFFF)

/-- The device as a driver over the content of its file, which is gone once the handle is released. A register that the mode does
not serve is refused before the handle is looked at. -/
def backend (controls : Controls) (mode : ReadMode) : Backend (Option (List UInt8)) where
  read r handle :=
    let answer := match mode, r with
      | .offset, .msr index => withHandle handle fun image => readAt image index
      | .msrRequest, .msr index => withHandle handle fun _ => (controls.msr index).mapError (.invalidMsr index)
      | .armRequest, .system r => withHandle handle fun _ => do
        let (echoed, value) ← (controls.arm r).mapError .ioctl
        armReply r echoed value
      | _, r => .error (.invalidRequest r.request)
    (answer, handle)
  close handle := (withHandle handle fun _ => .ok (), none)
where
  /-- An answer that needs the handle. -/
  withHandle {α : Type} (handle : Option (List UInt8)) (answer : List UInt8 → Except Error α) : Except Error α :=
    match handle with
    | some image => answer image
    | none => .error .invalidHandle

/-- A failure to open a file: the number that the system gives it and the system's wording. -/
structure OpenFailure where
  number : Int
  reason : String

/-- The system's number for a failed input or output. -/
def ioFailure : Int := 5

/-- The error that a failure to open a device file is. The drivers fail so on a CPU that cannot do what they are for. -/
def OpenFailure.error (failure : OpenFailure) (path : String) (kind : ChannelKind) : Error :=
  if failure.number = ioFailure then
    match kind with
    | .msr => .noRdmsr
    | .systemRegisters => .noCpuid
  else .noDriver ("cannot open " ++ path ++ ": " ++ failure.reason)

/-- The path of the device of a core. -/
def path (core : UInt32) (kind : ChannelKind) : String :=
  let file := match kind with
    | .msr => "msr"
    | .systemRegisters => "cpuid"
  "/dev/cpu/" ++ String.ofList (Text.decimal core.toNat) ++ "/" ++ file

/-- What stands at the path of a device before it is opened. -/
inductive Presence where
  | missing
  | unreadable
  | readable
  deriving DecidableEq, Repr

/-- Sees to it that a device is there, and tells whether the driver module was loaded for that: only if the device is missing, the
options allow it and the user may. -/
def ensure (path : String) (presence : Presence) (autoLoad root : Bool) (loadSucceeds : Bool) : Except Error Unit × Bool :=
  match presence with
  | .readable => (.ok (), false)
  | .unreadable => (.error (.noDriver (path ++ " exists but is not readable")), false)
  | .missing =>
    if !autoLoad then (.error (.noDriver (path ++ " not found")), false)
    else if !root then (.error (.noDriver (path ++ " not found and loading the driver requires root")), false)
    else (if loadSucceeds then .ok () else .error (.noDriver "failed to load the driver module"), true)

/-- The code of a control request, from the numbers of the device, the function, the transfer method and the access rights. -/
def controlCode (device function method access : UInt32) : UInt32 :=
  device <<< 16 ||| access <<< 14 ||| function <<< 2 ||| method

/-- How many CPUs the system's set of CPUs to run on has room for. -/
def cpuCapacity : Nat := 1024

/-- Checks that a CPU can be in the system's set; the error shows the low 32 bits of its number. -/
def checkCpu (cpu : UInt64) : Except Error Unit :=
  if cpu.toNat < cpuCapacity then .ok () else .error (.invalidCore cpu.toUInt32 (UInt32.ofNat cpuCapacity))

end Device
end CpuIdent
