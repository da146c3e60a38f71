import Subshell.Fault
import Subshell.Files.Node
/-!
Files, as far as a log needs them: directories are made on the way to a file, and texts are
appended to files.

A path is written as names that slashes separate, from the working directory or from the root. `.`
and `..` are names like others until a path is followed, and each name that is followed has to be
that of a directory, the last one apart. A place is where a path leads: names below the working
directory or below the root. The working directory lies in the directory for temporary files; what
it is called there is not known, so no name leads back into it from above. How long a path may be
counts for the path as it is written, repeated slashes included.
-/

namespace Subshell

/-- Where a path leads. -/
inductive Place
  /-- Names below the working directory. -/
  | inside (names : Path)
  /-- Names below the root. -/
  | rooted (names : Path)
  deriving DecidableEq, Repr

namespace Place

/-- The working directory. -/
def here : Place := inside []

/-- The directory that the working directory lies in. -/
def parent : Path := ["tmp"]

/-- The number of bytes in the path of the working directory. -/
def hereLength : Nat := 16

/-- Where a written path begins. -/
def start (text : Text) : Place := if text.head? = some '/' then rooted [] else here

/-- The names of a written path. -/
def names (text : Text) : Path := (text.splitOn '/').filter (· ≠ [])

/-- The place that a name leads to. The root has nothing above it. -/
def step (place : Place) (name : Text) : Place :=
  if name = ['.'] then place
  else if name = ['.', '.'] then
    match place with
    | inside [] => rooted parent
    | inside (first :: rest) => inside (first :: rest).dropLast
    | rooted names => rooted names.dropLast
  else
    match place with
    | inside names => inside (names ++ [name])
    | rooted names => rooted (names ++ [name])

/-- The directory from which the names of a place begin, these names, and the number of bytes in the
path that leads there from the root. -/
def split : Place → Place × Path × Nat
  | inside names => (here, names, hereLength + (Text.join ['/'] ([] :: names)).byteLength)
  | rooted names => (rooted [], names, (Text.join ['/'] ([] :: names)).byteLength)

end Place

/-- The directories that stand below the root of every file system, the one of devices apart. -/
def standingDirectories : List Text :=
  ["bin", "boot", "etc", "home", "lib", "media", "mnt", "opt", "proc", "root", "run", "sbin", "srv",
    "sys", "tmp", "usr", "var"]

/-- The devices that take whatever is written to them and keep nothing of it. -/
def standingSinks : List Text := ["null", "random", "urandom", "zero"]

/-- What stands in every file system. -/
def standing : Node :=
  .directory (("dev".toList, .directory (standingSinks.map fun name => (name, .sink))) ::
    standingDirectories.map fun name => (name, .directory []))

/-- The files and directories that there are. -/
structure Files where
  /-- What stands below the working directory. -/
  here : Node := .directory []
  /-- What stands below the root, the working directory apart. -/
  root : Node := standing
  deriving Inhabited

namespace Files

/-- What is at a place. -/
def find? (files : Files) : Place → Option Node
  | .inside names => files.here.find? names
  | .rooted names => files.root.find? names

/-- The files with something at a place. -/
def put (files : Files) (node : Node) : Place → Files
  | .inside names => { files with here := files.here.put node names }
  | .rooted names => { files with root := files.root.put node names }

/-- The most bytes that a name may have. -/
def maxNameLength : Nat := 255

/-- The most bytes that a path may have as it is written. -/
def maxPathLength : Nat := 4095

/-- The place that names lead to from `place`, whether or not something is there. -/
def walk (files : Files) (place : Place) : Path → Except FileFault Place
  | [] => .ok place
  | name :: rest =>
    match files.find? place with
    | none => .error .notFound
    | some (.directory _) =>
      if maxNameLength < name.byteLength then .error .nameTooLong
      else files.walk (place.step name) rest
    | some _ => .error .notDirectory

/-- The place that names lead to from `place`, when `length` bytes write the path. A null character
is refused before anything is looked at, and so is a path that is too long. -/
def follow (files : Files) (place : Place) (names : Path) (length : Nat) : Except FileFault Place :=
  if names.any (·.contains '\x00') then .error .nullCharacter
  else if maxPathLength < length then .error .nameTooLong
  else files.walk place names

/-- The place that a written path leads to from `place`, given what stands between its slashes. -/
def locate (files : Files) (place : Place) (parts : List Text) : Except FileFault Place :=
  files.follow place (parts.filter (· ≠ [])) (Text.join ['/'] parts).byteLength

/-- Whether something is where a written path leads, given what stands between its slashes. -/
def contains (files : Files) (start : Place) (parts : List Text) : Bool :=
  match files.locate start parts with
  | .ok place => (files.find? place).isSome
  | .error _ => false

/-- The files with a new directory at a written path, given what stands between its slashes. -/
def makeDirectory (files : Files) (start : Place) (parts : List Text) : Except FileFault Files :=
  match files.locate start parts with
  | .error fault => .error fault
  | .ok place =>
    if (files.find? place).isSome then .error .alreadyExists
    else .ok (files.put (.directory []) place)

/-- What stands between the slashes of a path without those at its end, given last first. -/
def withoutSlashes (parts : List Text) : List Text := (parts.dropWhile (· = [])).reverse

/-- The most missing directories inside one another that are made on the way to one. -/
def maxMissing : Nat := 985

/-- The files with a directory and, before it, the missing ones above it, of which there may be
`room`. What stands between the slashes of the path is given last first, and slashes at its end do
not count. What was made before a fault stays. -/
def makeDirectories (files : Files) (start : Place) (room : Nat) :
    List Text → Files × Option FileFault
  | [] => (files, none)
  | [] :: above => files.makeDirectories start room above
  | name :: above =>
    let missing := !files.contains start (withoutSlashes above)
    let (files, fault) :=
      if missing then
        match room with
        | 0 => (files, some .tooNested)
        | room + 1 => files.makeDirectories start room above
      else (files, none)
    if fault.any (· ≠ .alreadyExists) then (files, fault)
    else if missing ∧ name = ['.'] then (files, none)
    else
      match files.makeDirectory start (name :: above).reverse with
      | .ok files => (files, none)
      | .error fault => (files, some fault)

/-- The files with an empty file at a place, unless there is a file. -/
def create (files : Files) (place : Place) : Except FileFault Files :=
  let (start, names, length) := place.split
  match files.follow start names length with
  | .error fault => .error fault
  | .ok place =>
    match files.find? place with
    | some (.directory _) => .error .isDirectory
    | some _ => .ok files
    | none => .ok (files.put (.file []) place)

/-- The files with the file that a written path leads to, made with the directories above it if it
is not there, and its place. The way to the file is followed by name only, so that `..` undoes the
name before it. -/
def openFile (files : Files) (path : Text) : Files × Except FileFault Place :=
  let start := Place.start path
  let directory := (path.splitOn '/').reverse.drop 1
  let (files, fault) :=
    if files.contains start (withoutSlashes directory) then (files, none)
    else files.makeDirectories start maxMissing directory
  match fault with
  | some fault => (files, .error fault)
  | none =>
    let place := (Place.names path).foldl Place.step start
    match files.create place with
    | .ok files => (files, .ok place)
    | .error fault => (files, .error fault)

/-- The files with a text more at the end of a file. -/
def append (files : Files) (place : Place) (text : Text) : Files :=
  match files.find? place with
  | some (.file content) => files.put (.file (content ++ text)) place
  | _ => files

/-- The files below the working directory with their contents, and the vacant directories without,
by their written paths. A slash ends the path of a directory. A directory whose path from the root
is too long is not seen. -/
def listing (files : Files) : List (Text × Option Text) :=
  files.here.listing.filter fun entry => Place.hereLength + entry.1.byteLength ≤ maxPathLength

end Files

end Subshell
