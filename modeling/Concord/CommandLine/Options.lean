import Concord.Error
import Concord.Evaluation.Environment
import Concord.Parsing.Vocabulary

/-!
# Options

What can be said on the command line.  Options may come in any order and may be repeated; the first
argument that is no option, or that contradicts an earlier one, is reported.
-/

namespace Concord.CommandLine

open Parsing (AnnotationPolicy)

/-- Where lines come from. -/
inductive InputMode where
  /-- From the keyboard if there is one, and from a plain stream otherwise. -/
  | auto
  | interactive
  | pipe
  deriving DecidableEq, Repr

def InputMode.name : InputMode → String
  | auto => "Auto"
  | interactive => "Interactive"
  | pipe => "Pipe"

structure Options where
  help : Bool
  version : Bool
  hidesBanner : Bool
  policy : AnnotationPolicy
  scope : EnvironmentScope
  input : InputMode
  deriving DecidableEq, Repr

inductive UsageError where
  /-- An argument with a leading hyphen that is no option. -/
  | unknownOption (argument : String)
  | unexpectedArgument (argument : String)
  | conflictingModes
  deriving DecidableEq, Repr

namespace UsageError

def message : UsageError → String
  | unknownOption argument => "unknown option: " ++ argument
  | unexpectedArgument argument => "unexpected argument: " ++ argument
  | conflictingModes => "--interactive and --pipe are mutually exclusive"

def ofArgument (argument : String) : UsageError :=
  if argument.toList.head? = some '-' then unknownOption argument else unexpectedArgument argument

/-- The error as it is reported. -/
def toError (error : UsageError) : Error :=
  .ofKind (.config error.message)

end UsageError

namespace Options

def none : Options :=
  ⟨false, false, false, .lenient, .perLine, .auto⟩

/-- Ask for an input mode.  Another one must not have been asked for. -/
def withInput (options : Options) (mode : InputMode) : Except UsageError Options :=
  if options.input = .auto ∨ options.input = mode then
    .ok { options with input := mode }
  else
    .error .conflictingModes

def accept (options : Options) (argument : String) : Except UsageError Options :=
  match argument with
  | "-h" | "--help" => .ok { options with help := true }
  | "-V" | "--version" => .ok { options with version := true }
  | "--no-banner" => .ok { options with hidesBanner := true }
  | "--strict" => .ok { options with policy := .strict }
  | "--persist" => .ok { options with scope := .session }
  | "--interactive" => options.withInput .interactive
  | "--pipe" => options.withInput .pipe
  | other => .error (.ofArgument other)

def acceptAll (options : Options) : List String → Except UsageError Options
  | [] => .ok options
  | argument :: others =>
    match options.accept argument with
    | .error error => .error error
    | .ok options => options.acceptAll others

/-- What a command line asks for.  Its first word is the name of the program. -/
def parse (words : List String) : Except Error Options :=
  (none.acceptAll (words.drop 1)).mapError UsageError.toError

/-- Whether lines come from the keyboard. -/
def isInteractive (options : Options) (terminal : Bool) : Bool :=
  match options.input with
  | .auto => terminal
  | .interactive => true
  | .pipe => false

end Options

end Concord.CommandLine
