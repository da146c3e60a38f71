import Subshell.Files
import Subshell.Log.Level
import Subshell.Log.Notice
/-!
The log book: where messages go, and which of them are written.

A message carries the dotted name of its teller and the number of its level. It is written when its
level is positive and not below that of its teller: the level of the package for tellers inside it,
unless that is zero, and that of the root for all others. A line goes to standard output, between
what the program prints itself, or to the end of a file.
-/

namespace Subshell

/-- Where the lines of a log go. -/
inductive LogTarget
  | output
  | file (place : Place)
  deriving DecidableEq, Repr

/-- The state of a log, of the files and of standard output. -/
structure LogBook where
  /-- The level of the root. -/
  root : Int := 30
  /-- The level of the package. -/
  package : Int := 0
  target : Option LogTarget := none
  files : Files := {}
  /-- What was written to standard output. -/
  printed : Text := []
  /-- The time that lines carry. -/
  time : Text := "TIME"
  deriving Inhabited

/-- The name of the package. -/
def packageName : Text := "cmdshell"

/-- The name that is shown for a teller; the root has no other name. -/
def tellerName (name : Text) : Text := if name.isEmpty then "root" else name

namespace LogBook

/-- Whether a teller belongs to the package. -/
def isInPackage (teller : Text) : Bool :=
  teller = packageName || (packageName ++ ['.']).isPrefixOf teller

/-- The level from which on the messages of a teller are written. -/
def levelOf (book : LogBook) (teller : Text) : Int :=
  if isInPackage teller && book.package ≠ 0 then book.package else book.root

/-- Whether a message is written. -/
def writes (book : LogBook) (teller : Text) (level : Int) : Bool :=
  0 < level && book.levelOf teller ≤ level

/-- The line of a message. -/
def line (book : LogBook) (teller : Text) (level : Int) (message : Text) : Text :=
  book.time ++ " - " ++ tellerName teller ++ " - " ++ levelText level ++ " - " ++ message ++ "\n"

/-- The book after a text was printed. -/
def print (book : LogBook) (text : Text) : LogBook := { book with printed := book.printed ++ text }

/-- The book after a message. -/
def tell (book : LogBook) (teller : Text) (level : Int) (message : Text) : LogBook :=
  if book.writes teller level then
    match book.target with
    | some .output => book.print (book.line teller level message)
    | some (.file place) =>
      { book with files := book.files.append place (book.line teller level message) }
    | none => book
  else book

/-- The number of the level that a name gives; an unknown name stands for that of information. -/
def numberOf (name : Text) : Int := ((LevelName.ofText? name).map (·.number)).getD 20

/-- The path of the log's file. The empty text names none. -/
def filePath (file : Option Text) : Option Text := file.filter (· ≠ [])

/-- The book with its log set up anew: a level by name, and a file or standard output. The log's
first message tells of it. -/
def setUp (book : LogBook) (level : Text) (file : Option Text) : LogBook × Option FileFault :=
  let number := numberOf level
  let path := filePath file
  let (files, target) : Files × Except FileFault LogTarget :=
    match path with
    | none => (book.files, .ok .output)
    | some path =>
      let (files, place) := book.files.openFile path
      (files, place.map .file)
  let book := { book with files := files }
  match target with
  | .error fault => (book, some fault)
  | .ok target =>
    let book := { book with root := number, package := number, target := some target }
    let start := Notice.logStarted (levelText number) (path.getD "stdout")
    (book.tell start.source start.severity.number start.message, none)

end LogBook

end Subshell
