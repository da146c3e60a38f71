import Subshell.Value.Basic
/-!
Notices: what the engine tells its log.

A notice is kept as what happened; `source` names the part of the engine that tells it, `severity`
says how grave it is, and `message` words it.
-/

namespace Subshell

/-- How grave a notice is. -/
inductive Severity
  | debug
  | info
  | warning
  | error
  deriving DecidableEq, Repr

/-- The number by which severities are compared. -/
def Severity.number : Severity → Int
  | debug => 10
  | info => 20
  | warning => 30
  | error => 40

/-- Something that happened in the engine. -/
inductive Notice
  -- reading commands
  | parsing (text : Text)
  | parsed (elements : Nat)
  | nestingExhausted
  | markerTooDeep (position : Nat) (limit : Option Nat)
  | unclosedMarker (position : Nat) (text : Text)
  | strayMarker (position : Nat) (text : Text)
  | danglingEscape (text : Text)
  -- evaluating them
  | evaluating (text : Text)
  | executing (interpolations : Nat)
  | interpolated (inner result : Text)
  -- registering and invoking commands
  | registered (name : Text)
  | invocationTooDeep (depth : Int) (limit : Int) (text : Text)
  | unknownCommand (name : Text) (depth : Int)
  | dispatching (name args : Text) (depth : Int)
  | returned (text result : Text)
  | malformedShell (args summary : Text)
  | resolved (args result : Text)
  -- handling lines
  | received (line : Text)
  | depthLimitHit (line summary : Text)
  | evaluationFailed (line message : Text)
  | commandFailed (line message : Text)
  -- settings and log
  | environmentRead (values : Value)
  | logStarted (level target : Text)

namespace Notice

/-- The part of the engine that tells a notice. -/
def source : Notice → Text
  | parsing _ | parsed _ | nestingExhausted | markerTooDeep _ _ | unclosedMarker _ _
  | strayMarker _ _ | danglingEscape _ => "cmdshell.shell_parser.shell_parser"
  | evaluating _ | executing _ | interpolated _ _ => "cmdshell.shell_evaluator.shell_evaluator"
  | registered _ => "cmdshell.commands.registry"
  | invocationTooDeep _ _ _ | unknownCommand _ _ | dispatching _ _ _ | returned _ _
  | malformedShell _ _ | resolved _ _ | received _ | depthLimitHit _ _ | evaluationFailed _ _
  | commandFailed _ _ => "cmdshell.dispatcher"
  | environmentRead _ => "cmdshell.config.settings"
  | logStarted _ _ => "cmdshell.config.logging_config"

/-- How grave a notice is. -/
def severity : Notice → Severity
  | parsing _ | parsed _ | executing _ | interpolated _ _ | registered _ | dispatching _ _ _
  | returned _ _ | environmentRead _ => .debug
  | evaluating _ | resolved _ _ | received _ | logStarted _ _ => .info
  | unknownCommand _ _ | malformedShell _ _ | depthLimitHit _ _ | evaluationFailed _ _ => .warning
  | nestingExhausted | markerTooDeep _ _ | unclosedMarker _ _ | strayMarker _ _ | danglingEscape _
  | invocationTooDeep _ _ _ | commandFailed _ _ => .error

/-- The wording of a notice. Long texts are cut to their first characters. -/
def message : Notice → Text
  | parsing text => "Attempting to parse command string: '" ++ text ++ "'"
  | parsed elements => "Parsed command with " ++ Text.ofNat elements ++ " top-level element(s)"
  | nestingExhausted => "Command parsing failed: nesting exhausted the recursion limit."
  | markerTooDeep position limit =>
    "Interpolation at position " ++ Text.ofNat position ++ " exceeds max depth " ++
      (limit.map Text.ofNat).getD []
  | unclosedMarker position text =>
    "Unmatched '$(' at position " ++ Text.ofNat position ++ " in '" ++ text ++ "'"
  | strayMarker position text =>
    "Unmatched ')' at position " ++ Text.ofNat position ++ " in '" ++ text ++ "'"
  | danglingEscape text => "Dangling escape at end of '" ++ text ++ "'"
  | evaluating text => "Evaluating command string: " ++ text.take 100
  | executing interpolations =>
    "Executing command tree with " ++ Text.ofNat interpolations ++ " interpolation(s)"
  | interpolated inner result => "Interpolation '" ++ inner ++ "' -> '" ++ result ++ "'"
  | registered name => "Registered command '" ++ name ++ "'"
  | invocationTooDeep depth limit text =>
    "Nested invocation depth " ++ Text.ofInt depth ++ " exceeds " ++ Text.ofInt limit ++ ": '" ++
      text ++ "'"
  | unknownCommand name depth =>
    "Unknown command '" ++ name ++ "' (depth " ++ Text.ofInt depth ++ ")"
  | dispatching name args depth =>
    "Dispatching '" ++ name ++ "' args='" ++ args ++ "' depth=" ++ Text.ofInt depth
  | returned text result => "command " ++ text ++ " returned " ++ result
  | malformedShell args summary => "Malformed shell command '" ++ args ++ "': " ++ summary
  | resolved args result => "shell resolved '" ++ args ++ "' to '" ++ result ++ "'"
  | received line => "Dispatcher received line: '" ++ line.take 100 ++ "'"
  | depthLimitHit line summary => "Depth limit hit for '" ++ line.take 50 ++ "': " ++ summary
  | evaluationFailed line message =>
    "Evaluation error for '" ++ line.take 50 ++ "': " ++ message
  | commandFailed line message => "Command failed for '" ++ line.take 50 ++ "': " ++ message
  | environmentRead values => "ShellConfig from environment: " ++ values.written
  | logStarted level target =>
    "Logging initialized at " ++ level ++ " level (" ++ target ++ ")"

end Notice

end Subshell
