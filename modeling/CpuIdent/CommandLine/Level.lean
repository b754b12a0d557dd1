import CpuIdent.CommandLine.Grammar

/-!
# Reading a command line

Words are read from left to right, level by level. A value that was read is kept aside until the next argument or the end of its
level and checked only then, so that an unknown argument behind a bad value is the mistake that is reported. A level above is
completed after those below it.
-/

namespace CpuIdent
namespace CommandLine

/-- An argument that was found, with its value. -/
abbrev Found := ArgName × ArgValue

/-- How far a level has come. -/
structure Level where
  /-- The arguments found and checked, in order. -/
  found : List Found := []
  /-- An argument that is not checked yet, with its value unless that is still due. -/
  aside : Option (ArgSpec × Option (List Char)) := none
  /-- Whether the argument set aside takes the next word as its value. -/
  awaits : Bool := false
  /-- Whether two dashes were met, so that all other words are positional. -/
  plainOnly : Bool := false
  /-- Whether the positional argument was given. -/
  positionTaken : Bool := false

namespace Level

/-- Takes an argument and its value into a level: there has to be a value, the argument may not be there yet, and then the value has
to be one that it takes. -/
def take (l : Level) (a : ArgSpec) (value : Option (List Char)) : Except UsageError Level :=
  match a.kind, value with
  | .stop reason, _ => .error reason
  | .value _, none => .error .noValue
  | .flag, _ =>
    if l.found.any (fun f => f.1 == a.name) then .error .repeated
    else .ok { l with found := l.found ++ [(a.name, .flag)] }
  | .value read, some word =>
    if l.found.any (fun f => f.1 == a.name) then .error .repeated
    else (read word).map fun v => { l with found := l.found ++ [(a.name, v)] }

/-- Takes in the argument that was set aside, if there is one. -/
def settle (l : Level) : Except UsageError Level :=
  match l.aside with
  | some (a, value) => take { l with aside := none, awaits := false } a value
  | none => .ok l

/-- An option with a value written in the same word. -/
def withValue (l : Level) (a : ArgSpec) (value : List Char) : Except UsageError Level := do
  take (← settle l) a (some value)

/-- An option whose value is the next word. -/
def expecting (l : Level) (a : ArgSpec) : Except UsageError Level := do
  return { ← settle l with aside := some (a, none), awaits := true }

/-- An argument without a value. -/
def withoutValue (l : Level) (a : ArgSpec) : Except UsageError Level := do
  take (← settle l) a none

/-- Reads the option of a word that begins with two dashes. -/
def readLong (c : CommandSpec) (l : Level) (body : List Char) : Except UsageError Level :=
  let (name, value) := match Text.cut? '=' body with
    | some (name, value) => (name, some value)
    | none => (body, none)
  match c.long? name with
  | none => .error .unknownArgument
  | some a =>
    match a.kind, value with
    | .value _, some value => withValue l a value
    | .value _, none => expecting l a
    | _, some _ => .error .valueForFlag
    | _, none => withoutValue l a

/-- Reads the letters of a word that begins with one dash. The first option that takes a value takes the rest of the word. -/
def readShort (c : CommandSpec) : Level → List Char → Except UsageError Level
  | l, [] => .ok l
  | l, letter :: rest =>
    match c.short? letter with
    | none => .error .unknownArgument
    | some a =>
      match a.kind, rest with
      | .value _, [] => expecting l a
      | .value _, '=' :: value => withValue l a value
      | .value _, value => withValue l a value
      | _, rest => do readShort c (← withoutValue l a) rest

/-- Reads a word as the positional argument. -/
def readPositional (c : CommandSpec) (l : Level) (word : List Char) : Except UsageError Level :=
  match c.positional, l.positionTaken with
  | some a, false => do return { ← settle l with aside := some (a, some word), positionTaken := true }
  | _, _ =>
    if l.plainOnly && ((c.subcommand? word).isSome || (c.hasSubcommands && word == ['h', 'e', 'l', 'p'])) then
      .error .unknownArgument
    else if c.hasSubcommands then .error .invalidSubcommand
    else .error .unknownArgument

/-- Reads a word that is no command. -/
def readWord (c : CommandSpec) (l : Level) (word : List Char) : Except UsageError Level :=
  if l.plainOnly then readPositional c l word
  else match word with
    | ['-', '-'] => .ok { l with plainOnly := true }
    | '-' :: '-' :: body => readLong c l body
    | '-' :: letter :: letters => readShort c l (letter :: letters)
    | _ =>
      match l.aside, l.awaits with
      | some (a, _), true => .ok { l with aside := some (a, some word), awaits := false }
      | _, _ => readPositional c l word

/-- Completes a level without a command below it: where commands stand below, one is due, and a positional argument is due. -/
def complete (c : CommandSpec) (l : Level) : Except UsageError (List Found) := do
  let l ← settle l
  if c.hasSubcommands then
    if l.found.isEmpty then .error .nothingGiven else .error .missingSubcommand
  else if c.positional.isSome && !l.positionTaken then .error .missingArgument
  else return l.found

end Level

/-- Whether help can be shown on the command that these words lead to. -/
def isHelpTopic : CommandSpec → List (List Char) → Bool
  | _, [] => true
  | c, w :: ws =>
    if c.hasSubcommands && w == ['h', 'e', 'l', 'p'] then ws.isEmpty
    else match c.subcommand? w with
      | some s => isHelpTopic s ws
      | none => false

/-- A command line that was read: the commands from the program down, each with the arguments found at its level. -/
abbrev Reading := List (String × List Found)

/-- Reads the words of a level and of those below it. -/
def readLevel : CommandSpec → Level → List (List Char) → Except UsageError Reading
  | c, l, [] => do return [(c.name, ← l.complete c)]
  | c, l, w :: ws =>
    if l.plainOnly || l.awaits then do readLevel c (← l.readWord c w) ws
    else if c.hasSubcommands && w == ['h', 'e', 'l', 'p'] then
      if isHelpTopic c ws then .error .displayHelp else .error .invalidSubcommand
    else match c.subcommand? w with
      | some s => do
        let below ← readLevel s {} ws
        return (c.name, (← l.settle).found) :: below
      | none => do readLevel c (← l.readWord c w) ws

/-- Reads the words behind the program's name. -/
def read (words : List String) : Except UsageError Reading := readLevel program {} (words.map String.toList)

end CommandLine
end CpuIdent
