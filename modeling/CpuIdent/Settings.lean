import CpuIdent.Error
import CpuIdent.File.Tree
import CpuIdent.Json.Parser
import CpuIdent.Json.Printer

/-!
# Settings

What the command line keeps between runs, as a JSON file. Every field may be missing, and so may the file.
-/

namespace CpuIdent

/-- The settings of the command line. -/
structure Settings where
  /-- A filter for log messages. -/
  logLevel : String := "warn"
  /-- Whether driver modules may be loaded. -/
  autoLoadModules : Bool := true
  /-- The file of a driver to install. -/
  driverImage : Option String := none
  /-- Whether JSON is laid out for reading. -/
  pretty : Bool := true
  deriving DecidableEq, Repr

/-- How a register channel is to be opened. -/
structure ChannelOptions where
  autoLoad : Bool := true
  driverImage : Option String := none
  deriving DecidableEq, Repr

namespace ChannelOptions

/-- The options that a value holds. -/
def ofJson? (v : Json) : Option ChannelOptions := do
  match ← v.fields? ["auto_load", "driver_image"] with
  | [autoLoad, driverImage] => return {
      autoLoad := ← Json.field? Json.asBool? true autoLoad
      driverImage := ← Json.field? (Json.asOption? Json.asText?) none driverImage }
  | _ => none

/-- Reads options. -/
def parse (text : String) : Except Error ChannelOptions :=
  match (Json.parse? text).bind ofJson? with
  | some options => .ok options
  | none => .error (.json "ill-formed channel options")

end ChannelOptions

namespace Settings

/-- How a register channel is to be opened under these settings. -/
def channelOptions (s : Settings) : ChannelOptions := ⟨s.autoLoadModules, s.driverImage⟩

/-- The settings that a value holds. -/
def ofJson? (v : Json) : Option Settings := do
  match ← v.fields? ["log_level", "auto_load_modules", "driver_image", "pretty"] with
  | [logLevel, autoLoadModules, driverImage, pretty] => return {
      logLevel := ← Json.field? Json.asText? "warn" logLevel
      autoLoadModules := ← Json.field? Json.asBool? true autoLoadModules
      driverImage := ← Json.field? (Json.asOption? Json.asText?) none driverImage
      pretty := ← Json.field? Json.asBool? true pretty }
  | _ => none

/-- The value that holds the settings. -/
def toJson (s : Settings) : Json := .record [
  ("log_level", .text s.logLevel),
  ("auto_load_modules", .bool s.autoLoadModules),
  ("driver_image", .option .text s.driverImage),
  ("pretty", .bool s.pretty)]

/-- Where the settings are kept: below the configuration directory if one is set, else below the home directory. -/
def path (configHome : Option String) (home : String) : String :=
  let base := match configHome.map String.toList with
    | some (c :: cs) => c :: cs
    | _ => Path.join home.toList ".config".toList
  String.ofList (Path.join (Path.join base "cpusig".toList) "config.json".toList)

/-- Reads the settings at a path; a missing file holds the defaults. -/
def load (files : FileTree) (path : String) : Except Error Settings :=
  match files.readText path.toList with
  | .ok text =>
    match (Json.parse? text).bind ofJson? with
    | some s => .ok s
    | none => .error (.config (path ++ ": ill-formed settings"))
  | .error .notFound => .ok {}
  | .error fault => .error (.cannotOpen path fault.message)

/-- Writes the settings into the file at a path. -/
def writeFile (s : Settings) (files : FileTree) (path : String) : Except Error Unit × FileTree :=
  match files.write path.toList (s.toJson.write .pretty).toUTF8.toList with
  | .ok files => (.ok (), files)
  | .error fault => (.error (.cannotOpen path fault.message), files)

/-- Writes the settings at a path, with the directories above it. These stay where the file itself is refused. -/
def save (s : Settings) (files : FileTree) (path : String) : Except Error Unit × FileTree :=
  match Path.parent? path.toList with
  | none => s.writeFile files path
  | some above =>
    match files.makeDirectories above with
    | (.ok (), files) => s.writeFile files path
    | (.error fault, files) => (.error (.cannotOpen (String.ofList above) fault.message), files)

/-- The filter for log messages: by the command line, else by the environment, else by the settings; empty texts do not count. -/
def logFilter (flag environment : Option String) (configured : String) : String :=
  ((flag.filter (· != "")).or (environment.filter (· != ""))).getD configured

end Settings
end CpuIdent
