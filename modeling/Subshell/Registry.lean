import Subshell.Settings
import Subshell.Text.Words
/-!
The registry of commands.

Commands are found by name, whatever the letter case and the blanks around it. A name is a single
word in lower case, and no two commands share one. A handler is what answers a command: the shell
itself under settings of its own, a built-in command, or a handler of the host.
-/

namespace Subshell

/-- The built-in commands. -/
inductive Builtin
  | ping
  | echo
  | upper
  | lower
  | reverse
  | say
  | help
  deriving DecidableEq, Repr

/-- What answers a command; `ι` names the handlers of the host. -/
inductive Handler (ι : Type)
  /-- The shell, bound to the settings under which it was registered. -/
  | shell (settings : Settings)
  | builtin (builtin : Builtin)
  | custom (handler : ι)
  deriving DecidableEq, Repr

/-- A registered command. -/
structure Entry (ι : Type) where
  name : Text
  handler : Handler ι
  help : Text := []
  deriving DecidableEq, Repr

/-- The registered commands, the earliest first. -/
structure Registry (ι : Type) where
  entries : List (Entry ι) := []
  deriving DecidableEq, Repr

/-- The name under which a command is kept: without blanks around it and in lower case. -/
def commandKey (name : Text) : Text := (Text.strip name).lower

namespace Registry

variable {ι : Type}

/-- The command of a name. -/
def lookup (registry : Registry ι) (name : Text) : Option (Entry ι) :=
  registry.entries.find? (·.name = commandKey name)

/-- Whether there is a command of a name. -/
def contains (registry : Registry ι) (name : Text) : Bool := (registry.lookup name).isSome

/-- The registry with a command more. The name has to be a single word and free. -/
def register (registry : Registry ι) (name : Text) (handler : Handler ι) (help : Text) :
    Except RegistrationFault (Registry ι) :=
  let key := commandKey name
  if (Text.words key).length ≠ 1 then .error (.invalidName name)
  else if registry.entries.any (·.name = key) then .error (.taken key)
  else .ok ⟨registry.entries ++ [⟨key, handler, help⟩]⟩

/-- The registry without the command of a name. -/
def unregister (registry : Registry ι) (name : Text) : Registry ι :=
  ⟨registry.entries.filter (·.name ≠ commandKey name)⟩

/-- The number of commands. -/
def size (registry : Registry ι) : Nat := registry.entries.length

/-- The commands in the order of their names, which compares code points. -/
def sorted (registry : Registry ι) : List (Entry ι) :=
  registry.entries.mergeSort fun a b => !(b.name < a.name)

end Registry

end Subshell
