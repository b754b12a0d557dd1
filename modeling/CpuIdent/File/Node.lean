import CpuIdent.File.Path

/-!
# Files and directories

What can stand at a path, and places among it. A place remembers the directories above it, so that a walk can turn back, and so that
a change at the place can be carried up to the root.
-/

namespace CpuIdent

/-- What can stand at a path. -/
inductive FileNode where
  | file (content : List UInt8)
  /-- The device that is empty when it is read and keeps nothing of what is written. -/
  | null
  | directory (entries : List (List Char × FileNode))

/-- Why the system refuses. -/
inductive FileFault where
  | notFound
  | exists
  | notDirectory
  | isDirectory
  | nameTooLong
  | nulInName
  | notText
  deriving DecidableEq, Repr

/-- The wording of a refusal. -/
def FileFault.message : FileFault → String
  | notFound => "No such file or directory (os error 2)"
  | .exists => "File exists (os error 17)"
  | notDirectory => "Not a directory (os error 20)"
  | isDirectory => "Is a directory (os error 21)"
  | nameTooLong => "File name too long (os error 36)"
  | nulInName => "file name contained an unexpected NUL byte"
  | notText => "stream did not contain valid UTF-8"

namespace FileNode

/-- Whether a node is a directory. -/
def isDirectory : FileNode → Bool
  | directory _ => true
  | _ => false

/-- What a directory has under a name. -/
def entry? (d : FileNode) (name : List Char) : Option FileNode :=
  match d with
  | directory entries => (entries.find? fun e => e.1 == name).map Prod.snd
  | _ => none

/-- A directory with something under a name, in place of what it had there. -/
def withEntry (d : FileNode) (name : List Char) (node : FileNode) : FileNode :=
  match d with
  | directory entries => directory ((name, node) :: entries.filter fun e => e.1 != name)
  | other => other

end FileNode

/-- A node together with the directories above it, the nearest first, each with the name that leads down from it. -/
structure Place where
  node : FileNode
  above : List (List Char × FileNode) := []

namespace Place

/-- The root with all that stands below it. -/
def root (p : Place) : FileNode := p.above.foldl (fun node (name, directory) => directory.withEntry name node) p.node

/-- The place above; above the root is the root itself. -/
def up (p : Place) : Place :=
  match p.above with
  | (_, directory) :: above => ⟨directory, above⟩
  | [] => p

/-- The place that a name leads to. Only a directory can be left by a name, even by one that stands for the directory itself. -/
def enter (p : Place) (name : List Char) : Except FileFault Place :=
  if !p.node.isDirectory then .error .notDirectory
  else if name = ['.'] then .ok p
  else if name = ['.', '.'] then .ok p.up
  else if Path.byteCount name > Path.maxNameBytes then .error .nameTooLong
  else match p.node.entry? name with
    | some node => .ok ⟨node, (name, p.node) :: p.above⟩
    | none => .error .notFound

/-- The place that a name leads to, a new directory if there was none. -/
def reach (p : Place) (name : List Char) : Place :=
  match p.enter name with
  | .ok below => if below.node.isDirectory then below else ⟨.directory [], below.above⟩
  | .error _ => ⟨.directory [], (name, p.node) :: p.above⟩

/-- The root once something stands at a name of this place. -/
def put (p : Place) (name : List Char) (node : FileNode) : FileNode := { p with node := p.node.withEntry name node }.root

end Place
end CpuIdent
