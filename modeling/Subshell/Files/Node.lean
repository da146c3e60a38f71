import Subshell.Text.Basic
/-!
Trees of files: directories with named entries, and at their ends the files.

A path of names leads from a directory into the tree. `find?` gives what stands at its end, and
`put` puts something there.
-/

namespace Subshell

/-- The names of a path. -/
abbrev Path := List Text

/-- What stands at a place. -/
inductive Node
  | directory (entries : List (Text × Node))
  | file (content : Text)
  /-- A file that keeps nothing of what is written to it. -/
  | sink
  deriving Inhabited

namespace Node

/-- What stands where names lead from a node. -/
def find? (node : Node) : Path → Option Node
  | [] => some node
  | name :: rest =>
    match node with
    | directory entries => (entries.lookup name).bind fun entry => entry.find? rest
    | _ => none

/-- Entries with a node under a name: in the place of the entry that has the name, or at the end. -/
def enter (name : Text) (node : Node) : List (Text × Node) → List (Text × Node)
  | [] => [(name, node)]
  | entry :: rest =>
    if entry.1 = name then (name, node) :: rest else entry :: enter name node rest

/-- A node with another where names lead, below directories that are made where nothing stands. Only
directories have anything below them. -/
def put (node new : Node) : Path → Node
  | [] => new
  | name :: rest =>
    match node with
    | directory entries =>
      directory (enter name (((entries.lookup name).getD (directory [])).put new rest) entries)
    | node => node

/-- The files below a node with their contents, and the vacant directories without, by the paths
that lead to them. A slash ends the path of a directory. -/
def listing : Node → List (Text × Option Text)
  | directory entries => listEntries entries
  | _ => []
where
  /-- The listing of the entries of a directory. -/
  listEntries : List (Text × Node) → List (Text × Option Text)
    | [] => []
    | (name, file content) :: rest => (name, some content) :: listEntries rest
    | (_, sink) :: rest => listEntries rest
    | (name, directory []) :: rest => (name ++ ['/'], none) :: listEntries rest
    | (name, directory (entry :: more)) :: rest =>
      (listEntries (entry :: more)).map (fun below => (name ++ '/' :: below.1, below.2)) ++
        listEntries rest

end Node

end Subshell
