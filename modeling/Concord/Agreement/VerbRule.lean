import Concord.Error
import Concord.Expr.Basic

/-!
# Rules for verbs

A verb may ask for its arguments in certain cases.  Only strings have a case; an argument of any
other form agrees with everything.
-/

namespace Concord

/-- The cases that a verb asks for. -/
inductive Requirement where
  /-- Every argument in the same case, however many there are. -/
  | each (tag : Case)
  /-- One argument for each case, in this order. -/
  | positional (tags : List Case)
  deriving DecidableEq, Repr

structure VerbRule where
  gloss : String
  /-- What the arguments are to the verb, for messages. -/
  role : String
  requirement : Requirement
  deriving DecidableEq, Repr

/-- A string at a position of the arguments whose case is not the one asked for. -/
structure Disagreement where
  /-- How many arguments come before. -/
  position : Nat
  expected : Case
  found : Case
  deriving DecidableEq, Repr

/--
The first string whose case differs from the one beside it.  The first of the pairs is at the given
position.
-/
def firstDisagreement (position : Nat) : List (Case × Expr) → Option Disagreement
  | [] => none
  | (expected, argument) :: others =>
    match argument.case? with
    | none => firstDisagreement (position + 1) others
    | some found =>
      if found = expected then
        firstDisagreement (position + 1) others
      else
        some ⟨position, expected, found⟩

namespace VerbRule

def mismatch (rule : VerbRule) (verb : String) (mood : Mood) (found : Disagreement) :
    SemanticError :=
  .caseMismatch verb rule.gloss rule.role mood found.position found.expected found.found

/-- Accept arguments whose cases all agree, or name the first that does not. -/
def agree
    (rule : VerbRule)
    (verb : String)
    (mood : Mood)
    (pairs : List (Case × Expr)) :
    Except SemanticError Unit :=
  match firstDisagreement 0 pairs with
  | none => .ok ()
  | some found => .error (rule.mismatch verb mood found)

/--
Check the arguments of a command against the rule.  Where the rule counts the arguments, a wrong
number of them comes before any wrong case.
-/
def check
    (rule : VerbRule)
    (verb : String)
    (mood : Mood)
    (arguments : List Expr) :
    Except SemanticError Unit :=
  match rule.requirement with
  | .each tag => rule.agree verb mood (arguments.map fun argument => (tag, argument))
  | .positional tags =>
    if tags.length = arguments.length then
      rule.agree verb mood (tags.zip arguments)
    else
      .error (.arityMismatch verb rule.gloss tags.length arguments.length)

end VerbRule

end Concord
