import Concord.Agreement.RuleTable
import Concord.Log

/-!
# Evaluation

The meaning of an expression under a table of rules.  A command is checked right before it is
executed; one that disagrees with its rule changes nothing and fails.  The arguments of a command
are recorded as they stand and never evaluated.
-/

namespace Concord

structure Evaluation where
  value : Value
  environment : Environment
  events : List LogEvent

namespace RuleTable

/-- Execute a command, if it agrees with its rule. -/
def execute
    (table : RuleTable)
    (verb : String)
    (mood : Mood)
    (arguments : List Expr)
    (environment : Environment) :
    Evaluation :=
  match table.validate verb mood arguments with
  | .error error =>
    ⟨.failure (Error.ofKind (.semantic error)).message, environment,
      [.commandRejected verb mood error]⟩
  | .ok () =>
    ⟨.nothing, environment.record ⟨verb, mood, arguments⟩,
      [.commandExecuted ⟨verb, mood, arguments⟩]⟩

mutual

def evaluate (table : RuleTable) : Expr → Environment → Evaluation
  | .literal text _, environment => ⟨.text text, environment, []⟩
  | .reference name, environment => ⟨environment.valueOf name, environment, []⟩
  | .command verb mood arguments, environment => table.execute verb mood arguments environment
  | .sequence items, environment => table.evaluateAll items .nothing environment

/--
Evaluate expressions one after the other, up to the first that fails.  The value is the one of the
last expression evaluated, and `last` if there is none.
-/
def evaluateAll (table : RuleTable) : List Expr → Value → Environment → Evaluation
  | [], last, environment => ⟨last, environment, []⟩
  | item :: items, _, environment =>
    let first := table.evaluate item environment
    if first.value.isFailure then
      first
    else
      let others := table.evaluateAll items first.value first.environment
      ⟨others.value, others.environment, first.events ++ others.events⟩

end

end RuleTable

end Concord
