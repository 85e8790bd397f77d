import Concord.Proofs.Evaluation.Leaves
import Concord.Proofs.Session.Exchanges

/-!
# What a line leaves of a session

A line that is not evaluated leaves a session as it was.  One that is evaluated does so too, except
that what has been executed is handed out: in an environment that lines share nothing is left of it.
Names are never touched, and neither is anything else that the session was set up with; so all lines
are asked for in the same way.
-/

namespace Concord

open Parsing (parseLine)
open Text (trim)

/-- Whether the line was read and evaluated. -/
def Outcome.isEvaluated : Outcome → Bool
  | evaluated .. => true
  | _ => false

namespace Session

variable (session : Session)

/-- The session after a line has been evaluated. -/
def settled : Session :=
  session.keep ⟨session.environment.bindings, []⟩

@[simp]
theorem rules_settled : session.settled.rules = session.rules := by
  unfold settled keep
  split <;> rfl

@[simp]
theorem policy_settled : session.settled.policy = session.policy := by
  unfold settled keep
  split <;> rfl

@[simp]
theorem scope_settled : session.settled.scope = session.scope := by
  unfold settled keep
  split <;> rfl

@[simp]
theorem styled_settled : session.settled.styled = session.styled := by
  unfold settled keep
  split <;> rfl

@[simp]
theorem prompt_settled : session.settled.prompt = session.prompt := by
  unfold settled keep
  split <;> rfl

@[simp]
theorem bindings_settled : session.settled.environment.bindings = session.environment.bindings := by
  unfold settled keep
  split <;> rfl

theorem environment_settled_of_perLine (alone : session.scope = .perLine) :
    session.settled.environment = session.environment := by
  rw [settled, keep, alone]

theorem trace_settled_of_session (shared : session.scope = .session) :
    session.settled.environment.trace = [] := by
  rw [settled, keep, shared]

theorem session_evaluate_eq_settled (expression : Expr) :
    (session.evaluate expression).session = session.settled := by
  have bindings : (session.rules.evaluate expression session.lineEnvironment).environment.bindings =
      session.lineEnvironment.bindings := by
    rw [RuleTable.evaluate_eq_runLeaves, RuleTable.runLeaves]
  unfold evaluate settled
  cases scope : session.scope with
  | perLine => simp only [keep, scope]
  | session =>
    simp only [keep, scope, Environment.takeTrace, bindings]
    simp only [lineEnvironment, scope]

/-- An evaluated line settles a session, and any other line leaves it as it was. -/
theorem session_answer_eq (line : String) :
    (session.answer line).session =
      if (session.answer line).outcome.isEvaluated then session.settled else session := by
  by_cases blank : trim line = ""
  · rw [answer_of_blank blank]
    rfl
  · by_cases exit : trim line = "exit"
    · rw [answer_of_exit exit]
      rfl
    · cases read : parseLine session.policy line with
      | error error =>
        rcases answer_of_error blank exit read with ⟨outcome, kept⟩
        rw [outcome, kept]
        rfl
      | ok expression =>
        rcases answer_of_ok blank exit read with ⟨outcome, kept⟩
        rw [outcome, kept, session_evaluate_eq_settled]
        rfl

theorem session_turn_eq (reading : Reading) :
    (session.turn reading).session = session ∨
      (session.turn reading).session = session.settled := by
  cases reading with
  | line text repaired =>
    have left : (session.turn (.line text repaired)).session = (session.answer text).session := by
      cases outcome : (session.answer text).outcome <;> simp [turn, lineTurn, outcome]
    rw [left, session_answer_eq]
    split
    · exact .inr rfl
    · exact .inl rfl
  | _ => exact .inl rfl

@[simp]
theorem rules_turn (reading : Reading) :
    (session.turn reading).session.rules = session.rules := by
  rcases session.session_turn_eq reading with same | settled <;> simp [*]

@[simp]
theorem policy_turn (reading : Reading) :
    (session.turn reading).session.policy = session.policy := by
  rcases session.session_turn_eq reading with same | settled <;> simp [*]

@[simp]
theorem styled_turn (reading : Reading) :
    (session.turn reading).session.styled = session.styled := by
  rcases session.session_turn_eq reading with same | settled <;> simp [*]

@[simp]
theorem prompt_turn (reading : Reading) :
    (session.turn reading).session.prompt = session.prompt := by
  rcases session.session_turn_eq reading with same | settled <;> simp [*]

/-! ## Requests for lines -/

@[simp]
theorem prompts_opening (session : Session) : session.opening.filterMap Action.prompt? = [] := by
  cases shown : session.showsBanner <;> simp [opening, shown, Action.prompt?, Action.writeText]

@[simp]
theorem prompts_turn (session : Session) (reading : Reading) :
    (session.turn reading).actions.filterMap Action.prompt? = [] := by
  rcases session.actions_turn reading with
    ⟨events, actions⟩ | ⟨text, repaired, events, block, -, -, actions⟩ <;>
  simp [actions, Action.prompt?, Action.writeText]

@[simp]
theorem prompt_after (session : Session) (readings : List Reading) :
    (session.after readings).prompt = session.prompt := by
  induction readings generalizing session with
  | nil => rfl
  | cons reading others inductionHypothesis => simp [inductionHypothesis]

/-- Every reading is asked for once. -/
theorem prompts_exchanges (session : Session) (readings : List Reading) :
    (session.exchanges readings).filterMap Action.prompt? =
      List.replicate readings.length session.prompt := by
  induction readings generalizing session with
  | nil => rfl
  | cons reading others inductionHypothesis =>
    simp [inductionHypothesis, Action.prompt?, List.replicate_succ]

end Session

end Concord
