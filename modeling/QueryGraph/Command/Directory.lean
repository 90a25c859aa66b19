/-!
# `Command.Directory` — the files around a run

A small picture of a file system, seen from the directory in which a command runs: the files with
their content, the directories above, and what every system has below its root. A directory exists
when a file lies in it.

A path is followed step by step, and each step starts from a directory that has to be there, also
one that goes back up.

## Contents
- `FileError` — why a file cannot be used.
- `Place`, `Place.ofText` — where a path leads when every step can be taken.
- `Directory`, `Directory.entryAt?` — files by their places, and what is found at a place.
- `Directory.find` — following a path.
- `Directory.entry`, `content?`, `create`, `append` — using files.
-/

namespace QueryGraph.Command

/-- Why a file cannot be used. -/
inductive FileError where
  | notFound
  | isDirectory
  | notDirectory
  | nameTooLong
  | noSpace
  /-- Any other reason, in the words of the system. -/
  | other (reason : String)
  deriving DecidableEq, Repr

/-- The text of a file error. -/
def FileError.message : FileError → String
  | notFound => "No such file or directory (os error 2)"
  | isDirectory => "Is a directory (os error 21)"
  | notDirectory => "Not a directory (os error 20)"
  | nameTooLong => "File name too long (os error 36)"
  | noSpace => "No space left on device (os error 28)"
  | other reason => reason

/-! ## Places -/

/-- A directory that is always there. -/
inductive Origin where
  /-- So many levels above the directory of the run, which itself is no level above. -/
  | above (levels : Nat)
  /-- The root of the file system. -/
  | root
  deriving DecidableEq, Repr, Inhabited

/-- A place in a file system: the names on the way down from an origin. -/
structure Place where
  origin : Origin
  names : List String
  deriving DecidableEq, Repr, Inhabited

namespace Place

/-- One place up. Nothing is above the root. -/
def parent (p : Place) : Place :=
  match p.names, p.origin with
  | [], .above levels => ⟨.above (levels + 1), []⟩
  | [], .root => p
  | names, origin => ⟨origin, names.dropLast⟩

/-- One step of a path: a dot stays, two dots go up, a name goes down. -/
def step (p : Place) (part : String) : Place :=
  if part = "" ∨ part = "." then p
  else if part = ".." then p.parent
  else { p with names := p.names ++ [part] }

/-- Where a path starts: at the root if a slash comes first. -/
def start (path : String) : Place :=
  ⟨if path.toList.head? = some '/' then .root else .above 0, []⟩

/-- The steps of a path. -/
def steps (path : String) : List String := (path.toList.splitOn '/').map String.ofList

/-- Where a path leads when every step can be taken. -/
def ofText (path : String) : Place := (steps path).foldl step (start path)

end Place

/-! ## Directories -/

/-- A file that is no place for content. -/
inductive Device where
  /-- What is written is lost. -/
  | nothing
  /-- Nothing can be written. -/
  | full
  | standardInput
  | standardOutput
  | standardError
  deriving DecidableEq, Repr

/-- What can be found at a place. -/
inductive Entry where
  | file (content : ByteArray)
  | directory
  | device (device : Device)

/-- The directories below the root that every system has. -/
def systemDirectories : List String :=
  ["bin", "boot", "dev", "etc", "home", "lib", "media", "mnt", "opt", "proc", "root", "run", "sbin",
    "srv", "sys", "tmp", "usr", "var"]

/-- The device at a place. -/
def Device.at? (p : Place) : Option Device :=
  if p = ⟨.root, ["dev", "null"]⟩ then some .nothing
  else if p = ⟨.root, ["dev", "full"]⟩ then some .full
  else if p = ⟨.root, ["dev", "stdin"]⟩ then some .standardInput
  else if p = ⟨.root, ["dev", "stdout"]⟩ then some .standardOutput
  else if p = ⟨.root, ["dev", "stderr"]⟩ then some .standardError
  else none

/-- Files with their contents. -/
structure Directory where
  files : List (Place × ByteArray)
  deriving Inhabited

namespace Directory

/-- The content of the file at a place. -/
def get? (d : Directory) (p : Place) : Option ByteArray := d.files.lookup p

/-- Gives the file at a place a content; a new file goes to the end. -/
def put (d : Directory) (p : Place) (content : ByteArray) : Directory :=
  if (d.get? p).isSome then ⟨d.files.map fun f => if f.1 = p then (p, content) else f⟩
  else ⟨d.files ++ [(p, content)]⟩

/-- A directory with the given files; the last of several at one place counts. -/
def ofFiles (files : List (String × ByteArray)) : Directory :=
  files.foldl (fun d f => d.put (Place.ofText f.1) f.2) ⟨[]⟩

/-- Whether a directory is at a place: an origin, one of the system, or one with a file further
down. -/
def isDirectory (d : Directory) (p : Place) : Bool :=
  p.names.isEmpty || (p.origin == .root && systemDirectories.any fun name => p.names == [name]) ||
    d.files.any fun f =>
      f.1.origin == p.origin && p.names.isPrefixOf f.1.names && f.1.names != p.names

/-- What is found at a place. -/
def entryAt? (d : Directory) (p : Place) : Option Entry :=
  match d.get? p with
  | some content => some (.file content)
  | none => if d.isDirectory p then some .directory else (Device.at? p).map .device

/-! ## Paths -/

/-- The longest name, in bytes. -/
def maxNameLength : Nat := 255

/-- The longest path, in bytes. -/
def maxPathLength : Nat := 4095

/-- Takes one step of a path from a directory. -/
def enter (d : Directory) (p : Place) (part : String) : Except FileError Place :=
  match d.entryAt? p with
  | some .directory =>
    if maxNameLength < part.utf8ByteSize then .error .nameTooLong else .ok (p.step part)
  | some _ => .error .notDirectory
  | none => .error .notFound

/-- Follows a path up to its last step. What is at its end need not be there. -/
def find (d : Directory) (path : String) : Except FileError Place :=
  if maxPathLength < path.utf8ByteSize then .error .nameTooLong
  else (Place.steps path).foldlM d.enter (Place.start path)

/-- What is found at the end of a path. -/
def entry (d : Directory) (path : String) : Except FileError Entry := do
  match d.entryAt? (← d.find path) with
  | some entry => return entry
  | none => throw .notFound

/-- Makes an empty file, or empties the file that is there. A path with a slash at its end can only
be a directory, there or not, so its last name is not looked at. -/
def create (d : Directory) (path : String) : Except FileError Directory := do
  if (Place.steps path).getLast? = some "" ∧ path.utf8ByteSize ≤ maxPathLength then
    let before := ((Place.steps path).reverse.dropWhile (· = "")).tail.reverse
    let _ ← (before ++ ["."]).foldlM d.enter (Place.start path)
    throw .isDirectory
  let p ← d.find path
  match d.entryAt? p with
  | some .directory => throw .isDirectory
  | some (.device _) => return d
  | _ => return d.put p .empty

/-- The content of the file with the given path. -/
def content? (d : Directory) (path : String) : Option ByteArray :=
  match d.entry path with
  | .ok (.file content) => some content
  | _ => none

/-- Adds text to the end of a file that is there. -/
def append (d : Directory) (path text : String) : Directory :=
  match d.find path, d.content? path with
  | .ok p, some content => d.put p (content ++ text.toUTF8)
  | _, _ => d

/-! A step back up needs a directory to start from. -/

example : (ofFiles [("in", .empty)]).find "no/../in" = .error .notFound := by rfl

example : (ofFiles [("in", .empty)]).find "in/.." = .error .notDirectory := by rfl

example : (ofFiles [("d/in", .empty)]).find "d/../d/./in" = .ok ⟨.above 0, ["d", "in"]⟩ := by rfl

end Directory

end QueryGraph.Command
