import Concord.Text.Quoted

/-!
# Values

What an expression evaluates to.  A rejected command is a value like any other: it fails.
-/

namespace Concord

inductive Value where
  | text (content : String)
  /-- The result of an action that returns nothing. -/
  | nothing
  | failure (message : String)
  deriving DecidableEq, Repr

namespace Value

def isFailure : Value → Bool
  | failure _ => true
  | _ => false

def isNothing : Value → Bool
  | nothing => true
  | _ => false

def text? : Value → Option String
  | text content => some content
  | _ => none

def message? : Value → Option String
  | failure message => some message
  | _ => none

/-- The value as a person reads it; a text stands between quotes. -/
def render : Value → String
  | text content => Text.quote content
  | nothing => "void"
  | failure message => "error: " ++ message

end Value

end Concord
