import Concord.Grammar.Case
import Concord.Grammar.Mood

/-!
# Errors

Everything that can go wrong, kept by cause.  Each error has one message; an error may also carry a
note on where it came from.
-/

namespace Concord

/-- A disagreement between a verb's rule and the arguments of a command. -/
inductive SemanticError where
  /-- The argument at `position` carries another case than the rule asks for. -/
  | caseMismatch (verb gloss role : String) (mood : Mood) (position : Nat) (expected found : Case)
  | arityMismatch (verb gloss : String) (expected found : Nat)
  deriving DecidableEq, Repr

namespace SemanticError

/-- The verb of the rejected command, as written. -/
def verb : SemanticError → String
  | caseMismatch verb _ _ _ _ _ _ => verb
  | arityMismatch verb _ _ _ => verb

def message : SemanticError → String
  | caseMismatch verb gloss role _ _ expected found =>
    "'" ++ verb ++ "' (" ++ gloss ++ ") expects " ++ expected.render ++ " " ++ role ++ ", found " ++
      found.render
  | arityMismatch verb gloss expected found =>
    "'" ++ verb ++ "' (" ++ gloss ++ ") expects " ++ toString expected ++
      " argument(s), found " ++ toString found

end SemanticError

inductive ErrorKind where
  | parse (message : String) (line column : Nat) (sourceLine : String)
  | semantic (error : SemanticError)
  | io (reason : String)
  | config (reason : String)
  | internal (reason : String)
  deriving DecidableEq, Repr

def ErrorKind.message : ErrorKind → String
  | parse message line column _ =>
    message ++ " at line " ++ toString line ++ ", column " ++ toString column
  | semantic error => "semantic error: " ++ error.message
  | io reason => "i/o error: " ++ reason
  | config reason => "configuration error: " ++ reason
  | internal reason => "internal error: " ++ reason

/-- A note on where an error came from. -/
structure ErrorContext where
  source : Option String
  line : Option Nat
  deriving DecidableEq, Repr

/-- The note in words.  A line is worth mentioning only together with its source. -/
def ErrorContext.render : ErrorContext → String
  | ⟨some source, some line⟩ => "at " ++ source ++ ":" ++ toString line
  | ⟨some source, none⟩ => "at " ++ source
  | ⟨none, _⟩ => ""

/-- An error: its cause, and perhaps a note on where it came from. -/
structure Error where
  kind : ErrorKind
  context : Option ErrorContext
  deriving DecidableEq, Repr

namespace Error

def ofKind (kind : ErrorKind) : Error :=
  ⟨kind, none⟩

def withContext (error : Error) (context : ErrorContext) : Error :=
  ⟨error.kind, some context⟩

def message (error : Error) : String :=
  error.kind.message

def isParse (error : Error) : Bool :=
  match error.kind with
  | .parse .. => true
  | _ => false

end Error

end Concord
