import Concord.Expr.Inspect
import Concord.Evaluation.Environment
import Concord.Error
import Concord.Terminal.Paint

/-!
# Outcomes of lines

What has become of a line, and the block of text with which a session answers it.  A block is one
line for a parse error, and otherwise a line with the structure of the expression followed by a
verdict.
-/

namespace Concord

open Terminal (Paint)

inductive Outcome where
  | skipped
  | exit
  | parseError (error : Error)
  | evaluated (expression : Expr) (value : Value) (trace : List Execution)
  deriving DecidableEq

namespace Outcome

def traceLine (execution : Execution) : String :=
  Paint.dim.apply execution.render ++ "\n"

def verdict (styled : Bool) : Value → String
  | .failure message => Paint.red.applyIf styled "RUNTIME ERROR:" ++ " " ++ message ++ "\n"
  | .text _ | .nothing => "OK\n"

/-- The answer to a line, if it gets one.  Executed commands are shown only in a styled answer. -/
def block? (styled : Bool) : Outcome → Option String
  | skipped => none
  | exit => none
  | parseError error =>
    some (Paint.red.applyIf styled "Parse Error:" ++ " " ++ error.message ++ "\n")
  | evaluated expression value trace =>
    some ("AST: " ++ expression.inspect ++ "\n" ++
      (if styled then String.join (trace.map traceLine) else "") ++ verdict styled value)

end Outcome

end Concord
