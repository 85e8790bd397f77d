import Concord.Proofs.Evaluation.Leaves
import Concord.Proofs.Parsing.Fallbacks
import Concord.Proofs.Parsing.RoundTrip
import Concord.Proofs.Session.Turns

/-!
# What the log says

Events are noted beside what happens, in the reader, in the session and in the evaluator.  Read as
it is shown, with levels, texts and details, the log nevertheless says exactly what has happened:
for a line, which names were unknown and what became of the line, and for an evaluation, which
commands were executed and which one was rejected.
-/

namespace Concord

open Parsing (ClosedTag FallsBackAt readLine)
open Text (trim)

/-- An event as the log shows it. -/
structure LogEntry where
  level : LogLevel
  message : String
  details : List (String × String)

def LogEvent.entry (event : LogEvent) : LogEntry :=
  ⟨event.level, event.message, event.fields⟩

namespace LogEntry

/-- An executed command is shown in its own words. -/
def executed (execution : Execution) : LogEntry :=
  ⟨.info, execution.render, []⟩

def rejected (verb : String) (mood : Mood) (error : SemanticError) : LogEntry :=
  ⟨.debug, "command rejected",
    [("verb", verb), ("mood", mood.roleName), ("err", error.message)]⟩

def parseFailed (error : Error) : LogEntry :=
  ⟨.debug, "parse failed", [("err", error.message)]⟩

/-- An annotation with an unknown name is shown with this name, without the blanks around it. -/
def unknown : ClosedTag → LogEntry
  | ⟨_, .grammaticalCase, name, _⟩ =>
    ⟨.debug, "unknown case name, using Nominative", [("name", trim (String.ofList name))]⟩
  | ⟨_, .grammaticalMood, name, _⟩ =>
    ⟨.debug, "unknown mood name, using Imperative", [("name", trim (String.ofList name))]⟩

end LogEntry

theorem LogEvent.entry_nameUnknown (tag : ClosedTag) :
    (nameUnknown tag.fallback).entry = .unknown tag := by
  cases tag with
  | mk before category name between => cases category <;> rfl

/-! ## Evaluations -/

namespace RuleTable

variable {table : RuleTable} {bindings : Dictionary String Value} {environment : Environment}
  {expression : Expr}

/-- Evaluation stops at this command, which is rejected with this error. -/
def StopsAtRejection (table : RuleTable) (bindings : Dictionary String Value) (expression : Expr)
    (verb : String) (mood : Mood) (error : SemanticError) : Prop :=
  ∃ arguments,
    expression.leaves.find? (table.fails bindings) = some (.command verb mood arguments) ∧
      table.validate verb mood arguments = .error error

/-- What the log shows of a leaf at which an evaluation stops, if it stops. -/
inductive TellsStop (table : RuleTable) (bindings : Dictionary String Value) (expression : Expr) :
    List LogEntry → Prop
  | rejected (stops : table.StopsAtRejection bindings expression verb mood error) :
    TellsStop table bindings expression [.rejected verb mood error]
  | quiet
    (goesOn : ∀ verb mood error, ¬ table.StopsAtRejection bindings expression verb mood error) :
    TellsStop table bindings expression []

theorem tellsStop_rejection? :
    table.TellsStop bindings expression
      (((expression.leaves.find? (table.fails bindings)).toList.filterMap table.rejection?).map
        LogEvent.entry) := by
  cases stop : expression.leaves.find? (table.fails bindings) with
  | none =>
    refine .quiet fun verb mood error stops => ?_
    rcases stops with ⟨arguments, found, -⟩
    cases stop.symm.trans found
  | some leaf =>
    have failing := List.find?_some stop
    cases leaf with
    | command verb mood arguments =>
      cases checked : table.validate verb mood arguments with
      | ok => simp [fails, checked] at failing
      | error error =>
        have told : table.rejection? (.command verb mood arguments) =
            some (.commandRejected verb mood error) := by
          simp only [rejection?, checked]
        simp only [Option.toList_some, List.filterMap_cons, told, List.filterMap_nil]
        exact .rejected ⟨arguments, stop, checked⟩
    | _ =>
      refine .quiet fun verb mood error stops => ?_
      rcases stops with ⟨arguments, found, -⟩
      cases stop.symm.trans found

/-- An evaluation has every command shown that it puts on record, and last what it stops at. -/
theorem entries_evaluate (table : RuleTable) (expression : Expr) (environment : Environment) :
    ∃ executed told,
      (table.evaluate expression environment).environment.trace = environment.trace ++ executed ∧
        (table.evaluate expression environment).events.map LogEvent.entry =
          executed.map LogEntry.executed ++ told ∧
        table.TellsStop environment.bindings expression told := by
  refine ⟨table.executions environment.bindings expression.leaves, _, ?_, ?_, tellsStop_rejection?⟩
  · rw [evaluate_eq_runLeaves, runLeaves]
  · rw [evaluate_eq_runLeaves, runLeaves, List.map_append, List.map_map]
    rfl

end RuleTable

/-! ## Lines -/

namespace Session

variable {session : Session} {line : String}

/-- What the log shows of a line, behind the unknown names. -/
inductive Tells (session : Session) : Outcome → List LogEntry → Prop
  | failed : Tells session (.parseError error) [.parseFailed error]
  | literal :
    Tells session (.evaluated (.literal text tag) (.text text) session.lineEnvironment.trace) []
  | executed (agrees : session.rules.validate verb mood arguments = .ok ()) :
    Tells session
      (.evaluated (.command verb mood arguments) .nothing
        (session.lineEnvironment.trace ++ [⟨verb, mood, arguments⟩]))
      [.executed ⟨verb, mood, arguments⟩]
  | rejected (disagrees : session.rules.validate verb mood arguments = .error error) :
    Tells session
      (.evaluated (.command verb mood arguments)
        (.failure (Error.ofKind (.semantic error)).message) session.lineEnvironment.trace)
      [.rejected verb mood error]

theorem tells_evaluate {expression : Expr} (wellFormed : expression.WellFormed) :
    session.Tells (session.evaluate expression).outcome
      ((session.evaluate expression).events.map LogEvent.entry) := by
  cases expression with
  | literal text tag => exact .literal
  | command verb mood arguments =>
    cases checked : session.rules.validate verb mood arguments with
    | error error =>
      simp only [evaluate, RuleTable.evaluate, RuleTable.execute, checked]
      exact .rejected checked
    | ok =>
      simp only [evaluate, RuleTable.evaluate, RuleTable.execute, checked]
      exact .executed checked
  | _ => exact wellFormed.elim

/-- The events of a line that is read are those of its unknown names and of its outcome. -/
theorem entries_answer (spoken : trim line ≠ "") (stays : trim line ≠ "exit") :
    ∃ tags told,
      (session.answer line).events.map LogEvent.entry = tags.map LogEntry.unknown ++ told ∧
        FallsBackAt session.policy line.toList tags ∧
        session.Tells (session.answer line).outcome told := by
  rcases Parsing.exists_fallsBackAt session.policy line with ⟨tags, fallbacks, placed⟩
  have unknown : ((readLine session.policy line).fallbacks.map LogEvent.nameUnknown).map
      LogEvent.entry = tags.map LogEntry.unknown := by
    simp only [fallbacks, List.map_map]
    exact List.map_congr_left fun tag _ => LogEvent.entry_nameUnknown tag
  cases read : (readLine session.policy line).result with
  | error error =>
    refine ⟨tags, [.parseFailed error], ?_, placed, ?_⟩
    · simp only [answer, spoken, stays, read, if_false, List.map_append, unknown]
      rfl
    · rw [(answer_of_error spoken stays read).1]
      exact .failed
  | ok expression =>
    have wellFormed := Expr.wellFormed_of_spelling (Parsing.lineSpelling_of_parseLine read)
    refine ⟨tags, (session.evaluate expression).events.map LogEvent.entry, ?_, placed, ?_⟩
    · simp only [answer, spoken, stays, read, if_false, List.map_append, unknown]
    · rw [(answer_of_ok spoken stays read).1]
      exact tells_evaluate wellFormed

end Session

/--
The log says what has happened.  Of an evaluation it shows every command that is put on record, in
order and in the words of its record, then the rejected command if evaluation stops at one, and
nothing else.  Of a line it shows nothing if the line is skipped or ends the session.  Otherwise it
shows the annotations that are read up to their closing delimiters and whose names are unknown, in
order and under a lenient policy only; then that reading has failed, or the command that is executed
or rejected, and nothing more for a literal.
-/
theorem log_is_faithful :
    (∀ (table : RuleTable) (expression : Expr) (environment : Environment),
      let evaluation := table.evaluate expression environment
      ∃ executed told,
        evaluation.environment.trace = environment.trace ++ executed ∧
          evaluation.events.map LogEvent.entry = executed.map LogEntry.executed ++ told ∧
          table.TellsStop environment.bindings expression told) ∧
      ∀ (session : Session) (line : String),
        let answer := session.answer line
        ((answer.outcome = .skipped ∨ answer.outcome = .exit) ∧ answer.events = []) ∨
          ∃ tags told,
            answer.events.map LogEvent.entry = tags.map LogEntry.unknown ++ told ∧
              FallsBackAt session.policy line.toList tags ∧ session.Tells answer.outcome told := by
  refine ⟨RuleTable.entries_evaluate, fun session line => ?_⟩
  by_cases blank : trim line = ""
  · left
    rw [Session.answer_of_blank blank]
    exact ⟨.inl rfl, rfl⟩
  by_cases exit : trim line = "exit"
  · left
    rw [Session.answer_of_exit exit]
    exact ⟨.inr rfl, rfl⟩
  exact .inr (Session.entries_answer blank exit)

end Concord
