import CpuIdent.File.Node

/-!
# File trees

All files of a machine and the directory that a program works in, with what the system answers when files are read and written and
directories are made. A path is walked name by name, and every name but the last has to lead to a directory.
-/

namespace CpuIdent

/-- The files of a machine, and the names that lead from the root to the working directory. -/
structure FileTree where
  root : FileNode
  workingDirectory : List (List Char)

namespace FileTree

/-- The directories that every machine has at its root, apart from those with a use of their own. -/
def rootDirectories : List String :=
  ["bin", "boot", "etc", "home", "lib", "media", "mnt", "opt", "proc", "root", "run", "sbin", "srv", "sys", "usr", "var"]

/-- A machine with a new working directory among its temporary files. The working directory has a name that no path spells: what is
in it can be reached from it alone. -/
def fresh : FileTree where
  root := .directory (
    ("dev".toList, .directory [("null".toList, .null)]) ::
    ("tmp".toList, .directory [([], .directory [])]) ::
    rootDirectories.map fun name => (name.toList, .directory []))
  workingDirectory := ["tmp".toList, []]

/-- The place that a path starts from. -/
def start (t : FileTree) (path : List Char) : Except FileFault Place :=
  if Path.startsAtRoot path then .ok ⟨t.root, []⟩ else t.workingDirectory.foldlM Place.enter ⟨t.root, []⟩

/-- Refuses what cannot be a path. -/
def checkPath (path : List Char) : Except FileFault Unit :=
  if path.contains (Char.ofNat 0) then .error .nulInName
  else if path.isEmpty then .error .notFound
  else if Path.byteCount path > Path.maxBytes then .error .nameTooLong
  else .ok ()

/-- What a path leads to; at the end of a path that ends in a slash there has to be a directory. -/
def place? (t : FileTree) (path : List Char) : Except FileFault Place := do
  checkPath path
  let place ← (Path.names path).foldlM Place.enter (← t.start path)
  if Path.endsInSlash path then place.enter ['.'] else return place

/-- The directory that the last name of a path stands in, and this name. -/
def holder? (t : FileTree) (path : List Char) : Except FileFault (Place × List Char) := do
  checkPath path
  let names := Path.names path
  let place ← names.dropLast.foldlM Place.enter (← t.start path)
  return (← place.enter ['.'], names.getLast?.getD ['.'])

/-- Whether a path leads to a directory. -/
def isDirectory (t : FileTree) (path : List Char) : Bool :=
  match t.place? path with
  | .ok place => place.node.isDirectory
  | .error _ => false

/-- Whether a path leads to anything. -/
def pathExists (t : FileTree) (path : List Char) : Bool := (t.place? path).isOk

/-- The bytes of a file. -/
def read (t : FileTree) (path : List Char) : Except FileFault (List UInt8) := do
  match (← t.place? path).node with
  | .file content => return content
  | .null => return []
  | .directory _ => .error .isDirectory

/-- The text of a file. -/
def readText (t : FileTree) (path : List Char) : Except FileFault String := do
  let content ← t.read path
  match String.fromUTF8? ⟨content.toArray⟩ with
  | some text => return text
  | none => .error .notText

/-- The tree with the bytes of a file written; the directory that holds it has to be there. -/
def write (t : FileTree) (path : List Char) (content : List UInt8) : Except FileFault FileTree := do
  let (above, name) ← t.holder? path
  if Path.endsInSlash path then .error .isDirectory
  else match above.enter name with
    | .ok ⟨.directory _, _⟩ => .error .isDirectory
    | .ok ⟨.null, _⟩ => return t
    | .ok ⟨.file _, _⟩ => return { t with root := above.put name (.file content) }
    | .error .notFound => return { t with root := above.put name (.file content) }
    | .error fault => .error fault

/-- The tree with one directory made. -/
def makeDirectory (t : FileTree) (path : List Char) : Except FileFault FileTree := do
  let (above, name) ← t.holder? path
  match above.enter name with
  | .ok _ => .error .exists
  | .error .notFound => return { t with root := above.put name (.directory []) }
  | .error fault => .error fault

/-- A directory that may be there already. -/
def makeIfMissing (t : FileTree) (path : List Char) : Except FileFault FileTree :=
  match t.makeDirectory path with
  | .ok t => .ok t
  | .error fault => if t.isDirectory path then .ok t else .error fault

/-- Makes a directory and those above it, as far as they are missing; `depth` bounds how many there are. The directories that were
made stay where one below them is refused. -/
def makeAll (t : FileTree) (path : List Char) (depth : Nat) : Except FileFault Unit × FileTree :=
  if path.isEmpty then (.ok (), t)
  else match t.makeIfMissing path, depth, Path.parent? path with
    | .ok t, _, _ => (.ok (), t)
    | .error .notFound, depth + 1, some above =>
      match t.makeAll above depth with
      | (.ok (), t) =>
        match t.makeIfMissing path with
        | .ok t => (.ok (), t)
        | .error fault => (.error fault, t)
      | refused => refused
    | .error fault, _, _ => (.error fault, t)

/-- Makes a directory and those above it, as far as they are missing. -/
def makeDirectories (t : FileTree) (path : List Char) : Except FileFault Unit × FileTree := t.makeAll path path.length

/-- The tree with a file at a path and a directory at every name before, whatever stood there. -/
def putFile (t : FileTree) (path : List Char) (content : List UInt8) : FileTree :=
  match t.start path, (Path.names path).getLast? with
  | .ok place, some name =>
    { t with root := ((Path.names path).dropLast.foldl Place.reach place).put name (.file content) }
  | _, _ => t

end FileTree
end CpuIdent
