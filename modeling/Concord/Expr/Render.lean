import Concord.Expr.Basic
import Concord.Text.Join

/-!
# Expressions as lines

An expression in the form in which a line is written, with every case and mood spelled out.
-/

namespace Concord.Expr

open Text (joinWith)

mutual

/-- The expression as it would be written. -/
def render : Expr → String
  | literal text tag => "\"" ++ text ++ "\" [" ++ tag.nativeName ++ "]"
  | reference name => name
  | command verb mood arguments =>
    joinWith " " ((verb ++ " <" ++ mood.nativeName ++ ">") :: renderAll arguments)
  | sequence items => joinWith "; " (renderAll items)

def renderAll : List Expr → List String
  | [] => []
  | item :: items => render item :: renderAll items

end

theorem renderAll_eq_map (items : List Expr) : renderAll items = items.map render := by
  induction items with
  | nil => rfl
  | cons item items inductionHypothesis => simp [renderAll, inductionHypothesis]

end Concord.Expr
