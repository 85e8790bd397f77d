import Concord.Evaluation.Evaluate
import Concord.Parsing.Parser
import Concord.Session.Outcome

/-!
# Sessions

A session answers lines under a table of rules.  Depending on its scope, every line starts from
nothing or all lines share one environment.
-/

namespace Concord

open Parsing (AnnotationPolicy)

/-- A session between two lines. -/
structure Session where
  rules : RuleTable
  policy : AnnotationPolicy
  scope : EnvironmentScope
  /-- The environment that lines share, if they do. -/
  environment : Environment
  showsBanner : Bool
  styled : Bool
  prompt : String
  /-- The keywords handed to the keyboard so far, the latest last. -/
  announced : List (List String)

/-- What a line leads to. -/
structure Answer where
  outcome : Outcome
  session : Session
  events : List LogEvent

namespace Session

/-- A session as it begins, with the rules that are built in. -/
def start : Session :=
  ⟨.builtin, .lenient, .perLine, .empty, true, false, "kip> ", [RuleTable.builtin.keywords]⟩

/-- The session with other rules, whose keywords are handed to the keyboard. -/
def withRules (session : Session) (rules : RuleTable) : Session :=
  { session with rules := rules, announced := session.announced ++ [rules.keywords] }

/-- The environment in which a line is evaluated. -/
def lineEnvironment (session : Session) : Environment :=
  match session.scope with
  | .perLine => .empty
  | .session => session.environment

/-- The session after a line that has left this environment. -/
def keep (session : Session) (environment : Environment) : Session :=
  match session.scope with
  | .perLine => session
  | .session => { session with environment := environment }

def evaluate (session : Session) (expression : Expr) : Answer :=
  let evaluation := session.rules.evaluate expression session.lineEnvironment
  let taken := evaluation.environment.takeTrace
  ⟨.evaluated expression evaluation.value taken.1, session.keep taken.2, evaluation.events⟩

def answer (session : Session) (line : String) : Answer :=
  let trimmed := Text.trim line
  if trimmed = "" then
    ⟨.skipped, session, []⟩
  else if trimmed = "exit" then
    ⟨.exit, session, []⟩
  else
    let parsed := Parsing.readLine session.policy line
    let unknown := parsed.fallbacks.map LogEvent.nameUnknown
    match parsed.result with
    | .error error => ⟨.parseError error, session, unknown ++ [.parseFailed error]⟩
    | .ok expression =>
      let answer := session.evaluate expression
      ⟨answer.outcome, answer.session, unknown ++ answer.events⟩

end Session

end Concord
