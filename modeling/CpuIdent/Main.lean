import CpuIdent.CommandLine.Run
import CpuIdent.Snapshot.Writer

/-!
# The program

Reads the command line and the files that it names, carries the command out, and prints what comes of it.
-/

namespace CpuIdent
namespace CommandLine

/-- The version line. -/
def versionText : String := "cpusig " ++ Snapshot.version

/-- The commands of the program, one a line. -/
def helpText : String :=
  String.intercalate "\n" ("Usage: cpusig [OPTIONS] <COMMAND>" :: "" :: "Commands:" ::
    program.subcommands.map fun c => "  " ++ c.name)

end CommandLine

namespace Program

/-- Copies what stands at a path into a file tree. -/
def copyIn (files : FileTree) (path : String) : IO FileTree := do
  try
    return files.putFile path.toList (← IO.FS.readBinFile path).toList
  catch
    | .noFileOrDirectory .. => return files
    | _ => return (files.makeDirectories path.toList).2

/-- The paths that a task looks at, given the settings. -/
def pathsOf (settings : Settings) : Task → List String
  | .identify snapshot => snapshot.toList
  | .features snapshot => snapshot.toList
  | .msrRead .. => settings.driverImage.toList
  | .msrInfo .. => settings.driverImage.toList
  | _ => []

/-- The system's listing of CPUs, if it has one. -/
def readCpuListing : IO (Option String) := do
  try
    return some (String.ofList (Text.decodeUtf8 (← IO.FS.readBinFile "/proc/cpuinfo").toList))
  catch _ => return none

/-- Carries an invocation out and gives the exit code. -/
def carryOut (i : Invocation) : IO UInt32 := do
  let env : Environment := {
    files := .fresh
    configHome := ← IO.getEnv "XDG_CONFIG_HOME"
    home := (← IO.getEnv "HOME").getD ""
    cpuListing := ← readCpuListing }
  let env := { env with files := ← copyIn env.files (Run.settingsPath env i) }
  let paths := match Settings.load env.files (Run.settingsPath env i) with
    | .ok settings => pathsOf settings i.task
    | .error _ => []
  match Run.invocation { env with files := ← paths.foldlM copyIn env.files } i with
  | .ok (.printed text) =>
    IO.print text
    return 0
  | .ok (.failed message) =>
    IO.eprintln ("Error: " ++ message)
    return 1
  | .error e =>
    IO.eprintln ("Error: " ++ Run.chain e)
    return 1

end Program
end CpuIdent

open CpuIdent in
/-- The program. -/
def main (arguments : List String) : IO UInt32 := do
  match CommandLine.parse arguments with
  | .ok i => Program.carryOut i
  | .error .displayHelp =>
    IO.println CommandLine.helpText
    return 0
  | .error .displayVersion =>
    IO.println CommandLine.versionText
    return 0
  | .error e =>
    IO.eprintln ("error: " ++ e.name)
    IO.eprintln CommandLine.helpText
    return 2
