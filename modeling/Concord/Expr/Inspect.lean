import Concord.Expr.Basic
import Concord.Text.Join
import Concord.Text.Quoted

/-!
# The structure of expressions

A rendering that shows how an expression is built: the name of its form, then its parts by name.
Texts stand between quotes.
-/

namespace Concord.Expr

open Text (joinWith quoteWith)

/-- A form with its parts between braces. -/
def braced (form parts : String) : String :=
  form ++ " \x7b " ++ parts ++ " \x7d"

mutual

/-- The structure of an expression, with the characters that count as hidden written by number. -/
def inspectWith (hidden : Char → Bool) : Expr → String
  | literal text tag =>
    braced "Literal" ("text: " ++ quoteWith hidden text ++ ", case: " ++ tag.roleName)
  | reference name => braced "Variable" ("name: " ++ quoteWith hidden name)
  | command verb mood arguments =>
    braced "Command" ("verb: " ++ quoteWith hidden verb ++ ", mood: " ++ mood.roleName ++
      ", args: [" ++ joinWith ", " (inspectAllWith hidden arguments) ++ "]")
  | sequence items =>
    braced "Sequence" ("items: [" ++ joinWith ", " (inspectAllWith hidden items) ++ "]")

def inspectAllWith (hidden : Char → Bool) : List Expr → List String
  | [] => []
  | item :: items => inspectWith hidden item :: inspectAllWith hidden items

end

theorem inspectAllWith_eq_map (hidden : Char → Bool) (items : List Expr) :
    inspectAllWith hidden items = items.map (inspectWith hidden) := by
  induction items with
  | nil => rfl
  | cons item items inductionHypothesis => simp [inspectAllWith, inductionHypothesis]

def inspect (expression : Expr) : String :=
  expression.inspectWith Unicode.isHidden

end Concord.Expr
