import CpuIdent.CommandLine.Invocation
import CpuIdent.Identify
import CpuIdent.Report
import CpuIdent.Settings
import CpuIdent.Snapshot.Aida
import CpuIdent.Text.Floating

/-!
# Carrying out an invocation

What the program prints, or why it fails, given the files that it can see. This machine's own CPU cannot be asked, so a command
that needs it fails as on a CPU without the instruction. Its clock is known from the system's listing of CPUs: lines of a key, a
colon and a value.
-/

namespace CpuIdent
namespace Clock

/-- The key of the clock. -/
def key : List Char := ['c', 'p', 'u', ' ', 'M', 'H', 'z']

/-- The value of a line of the clock's key. -/
def value? (line : List Char) : Option (List Char) :=
  if (Text.after? key line).isSome then (Text.cut? ':' line).map Prod.snd else none

/-- The clock in whole megahertz, a half rounded away from zero, within 32 bits. -/
def ofListing? (listing : List Char) : Option Int := do
  let value ← (Text.lines listing).findSome? value?
  let mhz ← Text.readFloat? (Text.trim value)
  return mhz.round.toInt32.toInt

end Clock

/-- What the program can see. -/
structure Environment where
  files : FileTree
  /-- The directory for configuration, if one is set. -/
  configHome : Option String := none
  home : String := ""
  /-- The system's listing of CPUs, if it has one. -/
  cpuListing : Option String := none

/-- How a command ends. -/
inductive Outcome where
  | printed (text : String)
  | failed (message : String)
  deriving DecidableEq, Repr

namespace Run

/-- The wording of an error together with that of the system error behind it. -/
def chain (e : Error) : String :=
  match e.source? with
  | some reason => e.message ++ ": " ++ reason
  | none => e.message

/-- Prints a text on lines of its own, or fails with an error. -/
def finish (answer : Except Error String) : Outcome :=
  match answer with
  | .ok text => .printed (text ++ "\n")
  | .error e => .failed (chain e)

/-- The signature in a file. -/
def loadSnapshot (files : FileTree) (path : String) : Except Error Snapshot.Reading :=
  match files.readText path.toList with
  | .ok text => Snapshot.parse text
  | .error fault => .error (.cannotOpen path fault.message)

/-- The identity of the CPU of a snapshot; there is none without a snapshot. -/
def loadIdentity (files : FileTree) (snapshot : Option String) : Except Error Identity :=
  match snapshot with
  | some path => (loadSnapshot files path).map fun r => r.signature.identify
  | none => .error .noCpuid

/-- Texts on lines of their own. -/
def lines (texts : List String) : String := String.intercalate "\n" texts

/-- The end of a command on the registers of a core: a driver image that is named has to be there, and then the driver itself. -/
def registers (files : FileTree) (options : ChannelOptions) (core : Nat) : Outcome :=
  match options.driverImage.filter fun image => !files.pathExists image.toList with
  | some image => .failed ("driver image " ++ image ++ " does not exist")
  | none =>
    .failed ("cannot open the MSR driver of CPU " ++ String.ofList (Text.decimal core) ++ ": " ++ Error.noRdmsr.message)

/-- The clock in megahertz by the system's listing. -/
def clock (listing : Option String) : Outcome :=
  match (listing.bind fun text => Clock.ofListing? text.toList).filter (· > 0) with
  | some mhz => .printed (String.ofList (Text.decimalInt mhz) ++ " MHz\n")
  | none => .failed ("clock measurement failed: " ++ Error.noRdtsc.message)

/-- Carries out a command under settings. -/
def task (env : Environment) (settings : Settings) (compact : Bool) : Task → Outcome
  | .identify snapshot =>
    let layout := if settings.pretty && !compact then Json.Layout.pretty else Json.Layout.compact
    finish ((loadIdentity env.files snapshot).map fun id => (Report.identity id).write layout)
  | .dump .. => .failed (chain .noCpuid)
  | .features snapshot => finish ((loadIdentity env.files snapshot).map fun id => lines id.featureNames)
  | .list vendor =>
    match Vendor.ofName? vendor with
    | some v => .printed (lines v.cpuNames ++ "\n")
    | none => .failed ("unknown vendor '" ++ vendor ++ "'")
  | .msrRead _ core _ => registers env.files settings.channelOptions core
  | .msrInfo _ core => registers env.files settings.channelOptions core
  | .clock => clock env.cpuListing
  | .hypervisor => .failed (chain .noCpuid)

/-- The path of the settings of an invocation. -/
def settingsPath (env : Environment) (i : Invocation) : String := i.config.getD (Settings.path env.configHome env.home)

/-- Carries out an invocation. Without its settings it is not begun. -/
def invocation (env : Environment) (i : Invocation) : Except Error Outcome := do
  let settings ← Settings.load env.files (settingsPath env i)
  return task env { settings with autoLoadModules := settings.autoLoadModules && !i.noAutoLoad } i.compact i.task

end Run
end CpuIdent
