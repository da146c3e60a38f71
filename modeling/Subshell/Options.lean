import Subshell.Settings
/-!
The options of the command line.

Long options may be shortened as long as only one begins that way, and take their value after an
equals sign or as the next word; the short option takes its value also right behind its letter. A
word that begins with a dash is no value, unless it is a negative number, a lone dash, or holds a
space. Two dashes attached to an option are dropped and leave it without a value. The words are
sorted first and then taken from left to right; what belongs to no option is refused at the end.
-/

namespace Subshell

/-- The options. -/
inductive Flag
  | help
  | command
  | maxDepth
  | logLevel
  | logFile
  deriving DecidableEq, Repr

/-- What a command line gives for an option. -/
inductive Given (α : Type)
  /-- The option is not given. -/
  | absent
  /-- The option is given without a value. -/
  | vacant
  | value (a : α)
  deriving DecidableEq, Repr

/-- Whether an option is given, with or without a value. -/
def Given.isPresent {α : Type} : Given α → Bool
  | absent => false
  | _ => true

/-- The value that is given for an option. -/
def Given.value? {α : Type} : Given α → Option α
  | value a => some a
  | _ => none

/-- What a command line asks for. -/
structure Arguments where
  command : Given Text := .absent
  maxDepth : Given Int := .absent
  logLevel : Given Text := .absent
  logFile : Given Text := .absent
  deriving DecidableEq, Repr

/-- What is wrong with a command line. -/
inductive UsageFault
  | expectedArgument (flag : Flag)
  | invalidInteger (text : Text)
  | ignoredArgument (text : Text)
  | ambiguous (word : Text) (spellings : List Text)
  | unrecognized (words : List Text)
  deriving DecidableEq, Repr

/-- Why a command line is not run. -/
inductive UsageStop
  /-- Help is asked for. -/
  | help
  | fault (fault : UsageFault)
  deriving DecidableEq, Repr

/-- What a word of a command line is by its looks. -/
inductive ArgumentWord
  | value (text : Text)
  /-- An option, and what is attached to it in the same word. -/
  | flag (flag : Flag) (short : Bool) (attached : Option Text)
  /-- A word that is no value and belongs to no option. -/
  | stray (text : Text)
  deriving DecidableEq, Repr

namespace Flag

/-- The spellings of all options, in the order in which they are listed. -/
def spellings : List (Text × Flag) :=
  [("-h", help), ("--help", help), ("-c", command), ("--command", command),
    ("--max-depth", maxDepth), ("--log-level", logLevel), ("--log-file", logFile)]

/-- How an option is named in a message. -/
def title : Flag → Text
  | help => "-h/--help"
  | command => "-c/--command"
  | maxDepth => "--max-depth"
  | logLevel => "--log-level"
  | logFile => "--log-file"

end Flag

namespace ArgumentWord

/-- An option by its spelling. -/
def ofSpelling (spelling : Text) (named : Flag) (attached : Option Text) : ArgumentWord :=
  .flag named (!("--".toList).isPrefixOf spelling) attached

/-- A word before its first equals sign, and what is attached after it. -/
def splitEquals (word : Text) : Text × Option Text :=
  let name := word.takeWhile (· != '=')
  match word.drop name.length with
  | [] => (name, none)
  | _ :: text => (name, some text)

/-- The spellings that a word may stand for, each with the word's meaning if it does. -/
def candidates (word : Text) : List (Text × ArgumentWord) :=
  if ("--".toList).isPrefixOf word then
    let (name, attached) := splitEquals word
    Flag.spellings.filterMap fun (spelling, named) =>
      if name.isPrefixOf spelling then some (spelling, ofSpelling spelling named attached) else none
  else
    Flag.spellings.filterMap fun (spelling, named) =>
      if spelling = word.take 2 then
        some (spelling, ofSpelling spelling named (some (word.drop 2)))
      else if word.isPrefixOf spelling then some (spelling, ofSpelling spelling named none)
      else none

/-- Whether a text is a row of digits, of any script. -/
def areDigits (text : Text) : Bool := text.all fun c => (Text.digitValue? c).isSome

/-- Whether a word is a negative number: digits after a dash, with a point before the last of them
if there is one. A line break at the end does not count. -/
def isNegativeNumber : Text → Bool
  | '-' :: text =>
    let text := if text.getLast? = some '\n' then text.dropLast else text
    let whole := text.takeWhile (· != '.')
    match text.drop whole.length with
    | [] => !whole.isEmpty && areDigits whole
    | _ :: fraction => areDigits whole && !fraction.isEmpty && areDigits fraction
  | _ => false

/-- What a word is by its looks. -/
def ofText (word : Text) : Except UsageFault ArgumentWord :=
  if word.head? ≠ some '-' then .ok (.value word)
  else
    match Flag.spellings.lookup word with
    | some named => .ok (ofSpelling word named none)
    | none =>
      if word.length = 1 then .ok (.value word)
      else
        let (name, attached) := splitEquals word
        match attached, Flag.spellings.lookup name with
        | some attached, some named => .ok (ofSpelling name named (some attached))
        | _, _ =>
          -- a spelling that is cut short, or a short option with a text attached
          match candidates word with
          | [(_, meaning)] => .ok meaning
          | [] =>
            if isNegativeNumber word || word.contains ' ' then .ok (.value word)
            else .ok (.stray word)
          | several => .error (.ambiguous word (several.map Prod.fst))

/-- What the words are by their looks. Two dashes end the options: what follows are values, though
no option takes them. -/
def ofWords : List Text → Except UsageFault (List ArgumentWord)
  | [] => .ok []
  | word :: rest =>
    if word = "--".toList then .ok (.stray word :: rest.map .value)
    else do
      let first ← ofText word
      return first :: (← ofWords rest)

end ArgumentWord

namespace Arguments

/-- The arguments with the value of an option. -/
def set (arguments : Arguments) (flag : Flag) (text : Text) : Except UsageFault Arguments :=
  match flag with
  | .help => .ok arguments
  | .command => .ok { arguments with command := .value text }
  | .maxDepth =>
    match Text.readInt text with
    | .ok n => .ok { arguments with maxDepth := .value n }
    | .error _ => .error (.invalidInteger text)
  | .logLevel => .ok { arguments with logLevel := .value text }
  | .logFile => .ok { arguments with logFile := .value text }

/-- The arguments with an option that is given without a value. -/
def clear (arguments : Arguments) : Flag → Arguments
  | .help => arguments
  | .command => { arguments with command := .vacant }
  | .maxDepth => { arguments with maxDepth := .vacant }
  | .logLevel => { arguments with logLevel := .vacant }
  | .logFile => { arguments with logFile := .vacant }

/-- The arguments with an option to which a text is attached. -/
def attach (arguments : Arguments) (flag : Flag) (text : Text) : Except UsageFault Arguments :=
  if text = "--".toList then .ok (arguments.clear flag) else arguments.set flag text

/-- What becomes of a request for help with a text attached to its letter: the text holds letters of
short options, the last of which may take its value from the next word, `followed`. -/
def helpWith (followed : Bool) : Text → UsageStop
  | [] => .fault (.ignoredArgument [])
  | c :: more =>
    if c = 'h' then if more.isEmpty then .help else helpWith followed more
    else if c = 'c' then
      if more.isEmpty ∧ ¬followed then .fault (.expectedArgument .command) else .help
    else .fault (.ignoredArgument (c :: more))

/-- Whether the next word is a value. -/
def isFollowed : List ArgumentWord → Bool
  | .value _ :: _ => true
  | _ => false

/-- Takes the words from left to right; the second result holds the words that belong to no
option. -/
def take (arguments : Arguments) : List ArgumentWord → Except UsageStop (Arguments × List Text)
  | [] => .ok (arguments, [])
  | .value text :: rest | .stray text :: rest =>
    (take arguments rest).map fun (arguments, extra) => (arguments, text :: extra)
  | .flag .help _ none :: _ => .error .help
  | .flag .help short (some attached) :: rest =>
    .error (if short then helpWith (isFollowed rest) attached
      else .fault (.ignoredArgument attached))
  | .flag flag _ (some attached) :: rest => do
    (← (arguments.attach flag attached).mapError .fault).take rest
  | .flag flag _ none :: .value text :: rest => do
    (← (arguments.set flag text).mapError .fault).take rest
  | .flag flag _ none :: _ => .error (.fault (.expectedArgument flag))

/-- What the words of a command line ask for. -/
def ofWords (words : List Text) : Except UsageStop Arguments := do
  let sorted ← (ArgumentWord.ofWords words).mapError .fault
  let (arguments, extra) ← take {} sorted
  if extra.isEmpty then return arguments else throw (.fault (.unrecognized extra))

end Arguments

/-- The usage lines. -/
def usageText : Text :=
  "usage: cmdshell [-h] [-c COMMAND] [--max-depth MAX_DEPTH]\n" ++
  "                [--log-level LOG_LEVEL] [--log-file LOG_FILE]\n"

/-- The help. -/
def helpText : Text :=
  usageText ++
  "\nRun commands with nested $( ... ) interpolation.\n" ++
  "\noptions:\n" ++
  "  -h, --help            show this help message and exit\n" ++
  "  -c COMMAND, --command COMMAND\n" ++
  "                        Run a single command line (e.g. 'shell echo $(ping)')\n" ++
  "                        and exit.\n" ++
  "  --max-depth MAX_DEPTH\n" ++
  "                        Maximum interpolation nesting depth; 0 disables the\n" ++
  "                        limit.\n" ++
  "  --log-level LOG_LEVEL\n" ++
  "                        Logging level (DEBUG, INFO, WARNING, ERROR). Overrides\n" ++
  "                        CMDSHELL_LOG_LEVEL.\n" ++
  "  --log-file LOG_FILE   Write logs to this file instead of stdout.\n"

/-- The message of a usage fault. -/
def UsageFault.message : UsageFault → Text
  | expectedArgument flag => "argument " ++ flag.title ++ ": expected one argument"
  | invalidInteger text =>
    "argument " ++ Flag.maxDepth.title ++ ": invalid int value: " ++ Text.quoted text
  | ignoredArgument text =>
    "argument " ++ Flag.help.title ++ ": ignored explicit argument " ++ Text.quoted text
  | ambiguous word spellings =>
    "ambiguous option: " ++ word ++ " could match " ++ Text.join ", " spellings
  | unrecognized words => "unrecognized arguments: " ++ Text.join " " words

namespace UsageStop

/-- What goes to standard output. -/
def output : UsageStop → Text
  | help => helpText
  | fault _ => []

/-- What goes to standard error. -/
def complaint : UsageStop → Text
  | help => []
  | fault f => usageText ++ "cmdshell: error: " ++ f.message ++ "\n"

/-- The exit code. -/
def code : UsageStop → Int
  | help => 0
  | fault _ => 2

end UsageStop

namespace Arguments

/-- The fields of a settings object that the arguments give. A depth of zero, or none, turns the
limit off. A level without a value stays an empty list, which no level is. -/
def overrides (arguments : Arguments) : List (Text × Value) :=
  (match arguments.maxDepth with
    | .absent => []
    | .vacant => [(Settings.limitField, .null)]
    | .value n => [(Settings.limitField, if n = 0 then .null else .int n)]) ++
  match arguments.logLevel with
    | .absent => []
    | .vacant => [(Settings.levelField, .list [])]
    | .value level => [(Settings.levelField, .text level)]

/-- The fields with those of `overrides` in their places. -/
def override (fields overrides : List (Text × Value)) : List (Text × Value) :=
  fields.map fun (name, value) => (name, (overrides.lookup name).getD value)

/-- The settings of the environment with those that the arguments give put over them. What results
is checked once more. -/
def settings {σ : Type} (arguments : Arguments) (environment : Environment) : Run σ Settings := do
  let base ← environment.settings
  if arguments.overrides.isEmpty then return base
  else Run.ofExcept (Settings.ofFields? (override base.fields arguments.overrides))

end Arguments

end Subshell
