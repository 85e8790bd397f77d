import Concord.Proofs.Parsing.RoundTrip
import Concord.Proofs.Session.Aftermath

/-!
# Answers that depend on the line alone

A session may hold names and remember what was executed, and yet what it says in answer to a line
depends on nothing but the line, the rules, the policy and the style.  Two things make it so: no
expression that can be read asks for the value of a name, and what was executed is handed out after
every line, so that nothing is left of it for the next.
-/

namespace Concord

open Parsing (AnnotationPolicy parseLine)
open Terminal (Paint)
open Text (trim)
open Text.Utf8 (encode)

/-- A text between the escape sequence of a colour and the one that ends all colours, if styled. -/
def colouredIf (styled : Bool) (sequence text : String) : String :=
  if styled then sequence ++ text ++ "\x1b[0m" else text

/-- The record of a command that has been executed, in words. -/
def recordOf (execution : Execution) : String :=
  "Executing: " ++ execution.verb ++ " (" ++ execution.mood.roleName ++ ") with args: [" ++
    Text.joinWith ", " (execution.arguments.map Expr.render) ++ "]"

/-- The verdict on an expression that a line can say, with the command that was executed. -/
def expressionVerdict (rules : RuleTable) (styled : Bool) : Expr → String
  | .command verb mood arguments =>
    match rules.validate verb mood arguments with
    | .ok () =>
      (if styled then "\x1b[2m" ++ recordOf ⟨verb, mood, arguments⟩ ++ "\x1b[0m" ++ "\n" else "") ++
        "OK\n"
    | .error error =>
      colouredIf styled "\x1b[31m" "RUNTIME ERROR:" ++ " " ++
        (Error.ofKind (.semantic error)).message ++ "\n"
  | _ => "OK\n"

/-- The answer to a line. -/
def lineBlock
    (policy : AnnotationPolicy)
    (rules : RuleTable)
    (styled : Bool)
    (line : String) :
    String :=
  match parseLine policy line with
  | .error error => colouredIf styled "\x1b[31m" "Parse Error:" ++ " " ++ error.message ++ "\n"
  | .ok expression =>
    "AST: " ++ expression.inspect ++ "\n" ++ expressionVerdict rules styled expression

theorem Execution.render_eq_recordOf (execution : Execution) :
    execution.render = recordOf execution := by
  unfold render recordOf
  rw [← Expr.renderAll_eq_map]

/-- An executed command is shown dimmed. -/
theorem Outcome.traceLine_eq (execution : Execution) :
    traceLine execution = "\x1b[2m" ++ recordOf execution ++ "\x1b[0m" ++ "\n" := by
  have dimmed (text : String) : Paint.dim.apply text = "\x1b[2m" ++ text ++ "\x1b[0m" := rfl
  rw [traceLine, dimmed, execution.render_eq_recordOf]

theorem applyIf_red (styled : Bool) (text : String) :
    Paint.red.applyIf styled text = colouredIf styled "\x1b[31m" text :=
  rfl

namespace Session

variable {session : Session}

/-- Nothing is remembered of what was executed for earlier lines. -/
def Drained (session : Session) : Prop :=
  session.environment.trace = []

/-- What is remembered of earlier lines, if there is anything, is not shown. -/
def Discreet (session : Session) : Prop :=
  session.styled = true → session.Drained

theorem settled_of_drained (drained : session.Drained) : session.settled = session := by
  have kept : (⟨session.environment.bindings, []⟩ : Environment) = session.environment := by
    rw [← (drained : session.environment.trace = [])]
  rw [settled, kept, keep]
  split <;> rfl

theorem discreet_settled (discreet : session.Discreet) : session.settled.Discreet := by
  intro shown
  rw [styled_settled] at shown
  rw [settled_of_drained (discreet shown)]
  exact discreet shown

theorem trace_lineEnvironment (drained : session.Drained) :
    session.lineEnvironment.trace = [] := by
  cases scope : session.scope with
  | perLine => simp [lineEnvironment, scope, Environment.empty]
  | session =>
    rw [lineEnvironment, scope]
    exact drained

/-- The block of an expression that a line can say is the same in every environment. -/
theorem block?_evaluate (discreet : session.Discreet) {expression : Expr}
    (wellFormed : expression.WellFormed) :
    (session.evaluate expression).outcome.block? session.styled =
      some ("AST: " ++ expression.inspect ++ "\n" ++
        expressionVerdict session.rules session.styled expression) := by
  have empty : session.styled = true → session.lineEnvironment.trace = [] :=
    fun shown => trace_lineEnvironment (discreet shown)
  cases expression with
  | literal text tag =>
    cases styled : session.styled <;>
      simp_all [evaluate, RuleTable.evaluate, Environment.takeTrace, Outcome.block?,
        Outcome.verdict, expressionVerdict]
  | command verb mood arguments =>
    cases checked : session.rules.validate verb mood arguments with
    | ok =>
      cases styled : session.styled <;>
        simp_all [evaluate, RuleTable.evaluate, RuleTable.execute, Environment.record,
          Environment.takeTrace, Outcome.block?, Outcome.verdict, expressionVerdict,
          Outcome.traceLine_eq, String.append_assoc]
    | error error =>
      cases styled : session.styled <;>
        simp_all [evaluate, RuleTable.evaluate, RuleTable.execute, Environment.takeTrace,
          Outcome.block?, Outcome.verdict, expressionVerdict, applyIf_red]
  | _ => exact wellFormed.elim

theorem block?_answer (discreet : session.Discreet) {line : String}
    (spoken : trim line ≠ "") (stays : trim line ≠ "exit") :
    (session.answer line).outcome.block? session.styled =
      some (lineBlock session.policy session.rules session.styled line) := by
  rw [lineBlock]
  cases read : parseLine session.policy line with
  | error error => rw [(answer_of_error spoken stays read).1, Outcome.block?, applyIf_red]
  | ok expression =>
    have wellFormed := Expr.wellFormed_of_spelling (Parsing.lineSpelling_of_parseLine read)
    rw [(answer_of_ok spoken stays read).1]
    exact block?_evaluate discreet wellFormed

/-- A turn writes the block of the line that its reading asks about, and nothing otherwise. -/
theorem written_turn (discreet : session.Discreet) (reading : Reading) :
    (session.turn reading).actions.flatMap Action.written =
      encode ((reading.question?.map (lineBlock session.policy session.rules session.styled)).getD
        "") := by
  cases reading with
  | line text repaired =>
    have repair : ((session.turn (.line text repaired)).actions).flatMap Action.written =
        (session.lineTurn text).actions.flatMap Action.written := by
      cases repaired <;> simp [turn, Action.written]
    rw [repair]
    by_cases blank : trim text = ""
    · simp [lineTurn, answer_of_blank blank, Reading.question?, blank, encode]
    · by_cases exit : trim text = "exit"
      · simp [lineTurn, answer_of_exit exit, Reading.question?, exit, encode, Action.written]
      · have block := block?_answer discreet blank exit
        have shown := session.block?_answer_isSome blank exit session.styled
        rw [lineTurn_of_block shown]
        simp [Outcome.written_report, block, Reading.question?, blank, exit, Action.written]
  | _ => rfl

theorem discreet_turn (discreet : session.Discreet) (reading : Reading) :
    (session.turn reading).session.Discreet := by
  rcases session.session_turn_eq reading with same | settled
  · rw [same]
    exact discreet
  · rw [settled]
    exact discreet_settled discreet

/-- Exchanges write the blocks of the lines that ask for an answer. -/
theorem written_exchanges (discreet : session.Discreet) (readings : List Reading) :
    (session.exchanges readings).flatMap Action.written =
      encode (String.join ((readings.filterMap Reading.question?).map
        (lineBlock session.policy session.rules session.styled))) := by
  induction readings generalizing session with
  | nil => rfl
  | cons reading others inductionHypothesis =>
    have written := written_turn discreet reading
    have behind := inductionHypothesis (discreet_turn discreet reading)
    simp only [policy_turn, rules_turn, styled_turn] at behind
    calc
      _ = (session.turn reading).actions.flatMap Action.written ++
          ((session.turn reading).session.exchanges others).flatMap Action.written := by
        simp [Action.written]
      _ = encode ((reading.question?.map
            (lineBlock session.policy session.rules session.styled)).getD "") ++
          encode (String.join ((others.filterMap Reading.question?).map
            (lineBlock session.policy session.rules session.styled))) := by
        rw [written, behind]
      _ = _ := by
        cases question : reading.question? <;> simp [question, encode]

/-- A session writes its banner, if it shows one, and the blocks of the lines it answers. -/
theorem output_run (discreet : session.Discreet) (readings : List Reading) :
    (session.run .unlimited readings).output =
      encode ((if session.showsBanner then banner else "") ++
        String.join ((Reading.questions readings).map
          (lineBlock session.policy session.rules session.styled))) := by
  rw [output_run_unlimited, written_opening,
    written_exchanges discreet, Reading.filterMap_heard, ← Text.Utf8.encode_append]

/--
A session introduces itself, if it does so at all, and then writes the block of each line that it
answers.  The block of a line does not depend on the lines before it, nor on the scope of names.
-/
theorem run_eq_lineBlocks (session : Session) (readings : List Reading)
    (drained : session.Drained) :
    (session.run .unlimited readings).output =
        encode ((if session.showsBanner then banner else "") ++
          String.join ((Reading.questions readings).map
            (lineBlock session.policy session.rules session.styled))) ∧
      (session.run .unlimited readings).result = Reading.ending readings := by
  refine ⟨output_run (fun _ => drained) readings, ?_⟩
  rw [run_unlimited]

/-- A name is bound, and all lines up to the one that ends the session share it. -/
theorem run_eq_lineBlocks_of_bound_name :
    let environment := (Environment.empty.bind "x" (.text "y")).2
    let session : Session := { start with scope := .session, environment := environment }
    let readings : List Reading :=
      [.line "git \"x\"" false, .interrupted, .line " " true, .line "x \"y\"" false,
        .line " exit" false, .line "z" false, .endOfInput]
    session.Drained ∧
      (session.run .unlimited readings).output =
        encode (banner ++ (lineBlock .lenient .builtin false "git \"x\"" ++
          lineBlock .lenient .builtin false "x \"y\"")) ∧
      (session.run .unlimited readings).result = .ok () := by
  intro environment session readings
  have drained : session.Drained := rfl
  have questions : Reading.questions readings = ["git \"x\"", "x \"y\""] := by decide
  have ending : Reading.ending readings = .ok () := by rfl
  have holds := run_eq_lineBlocks session readings drained
  rw [questions, ending] at holds
  exact ⟨drained, by simpa [String.join, session, start] using holds.1, holds.2⟩

end Session

end Concord
