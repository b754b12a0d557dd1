import CpuIdent.CommandLine.Argument

/-!
# Commands and their arguments

Which commands there are, with the options and positional arguments of each. Four options may stand at every level, and so may the
requests for help and for the version.
-/

namespace CpuIdent
namespace CommandLine

/-- An argument of some command. -/
inductive ArgName where
  | logLevel | config | compact | noAutoLoad | help | version
  | snapshot | output | cpu | vendor | index | core | range | which
  deriving DecidableEq, Repr

/-- What an argument does. -/
inductive ArgKind where
  /-- It is there or not. -/
  | flag
  /-- It takes one value. -/
  | value (read : Reader)
  /-- It ends the reading of the command line. -/
  | stop (reason : UsageError)

/-- An argument and how it is written: by a long name behind two dashes or a letter behind one, or by its position. -/
structure ArgSpec where
  name : ArgName
  long : String := ""
  short : Option Char := none
  kind : ArgKind

/-- A command: its options, its positional argument if it has one, and the commands below it. -/
inductive CommandSpec where
  | mk (name : String) (options : List ArgSpec) (positional : Option ArgSpec) (subcommands : List CommandSpec)

namespace CommandSpec

/-- The name of a command. -/
def name : CommandSpec → String
  | mk name _ _ _ => name

/-- The options of a command, those of every level not counted. -/
def options : CommandSpec → List ArgSpec
  | mk _ options _ _ => options

/-- The positional argument of a command. -/
def positional : CommandSpec → Option ArgSpec
  | mk _ _ positional _ => positional

/-- The commands below a command. -/
def subcommands : CommandSpec → List CommandSpec
  | mk _ _ _ subcommands => subcommands

/-- The command of this name below a command. -/
def subcommand? (c : CommandSpec) (name : List Char) : Option CommandSpec :=
  c.subcommands.find? fun s => s.name.toList = name

/-- Whether commands stand below a command. -/
def hasSubcommands (c : CommandSpec) : Bool := !c.subcommands.isEmpty

end CommandSpec

/-- The options that every level has. -/
def everywhere : List ArgSpec := [
  { name := .logLevel, long := "log-level", kind := .value text },
  { name := .config, long := "config", kind := .value path },
  { name := .compact, long := "compact", kind := .flag },
  { name := .noAutoLoad, long := "no-auto-load", kind := .flag },
  { name := .help, long := "help", short := some 'h', kind := .stop .displayHelp },
  { name := .version, long := "version", short := some 'V', kind := .stop .displayVersion }]

namespace CommandSpec

/-- The option of this long name. -/
def long? (c : CommandSpec) (name : List Char) : Option ArgSpec :=
  (c.options ++ everywhere).find? fun a => a.long.toList = name

/-- The option of this letter. -/
def short? (c : CommandSpec) (letter : Char) : Option ArgSpec :=
  (c.options ++ everywhere).find? fun a => a.short = some letter

end CommandSpec

/-- The option that names a snapshot. -/
def snapshotOption : ArgSpec := { name := .snapshot, long := "snapshot", kind := .value path }

/-- The option that names a CPU to read on. -/
def coreOption : ArgSpec := { name := .core, long := "core", kind := .value number32 }

/-- The command that reads a register. -/
def msrReadCommand : CommandSpec :=
  .mk "read" [coreOption, { name := .range, long := "range", kind := .value bitRange }]
    (some { name := .index, kind := .value msrIndex }) []

/-- The command that derives a quantity. -/
def msrInfoCommand : CommandSpec := .mk "info" [coreOption] (some { name := .which, kind := .value quantity }) []

/-- The program. -/
def program : CommandSpec := .mk "cpusig" [] none [
  .mk "identify" [snapshotOption] none [],
  .mk "dump" [
    { name := .output, long := "output", short := some 'o', kind := .value path },
    { name := .cpu, long := "cpu", kind := .value number64 }] none [],
  .mk "features" [snapshotOption] none [],
  .mk "list" [] (some { name := .vendor, kind := .value text }) [],
  .mk "msr" [] none [msrReadCommand, msrInfoCommand],
  .mk "clock" [] none [],
  .mk "hypervisor" [] none []]

end CommandLine
end CpuIdent
