import Mathlib.Data.List.Induction
import Concord.Proofs.Parsing.RoundTrip
import Concord.Proofs.Session.Aftermath

/-!
# Sessions that are set up between lines

The owner of a session may change its settings between two lines, bind names in its environment and
put executions on record there.  A setting is as it was set last and a name has the value bound
last, for no line touches either.  What is on record waits for the next line that is evaluated in
the shared environment; that line hands out all of it.
-/

namespace Concord

open Parsing (AnnotationPolicy parseLine)
open Text (trim)

/-- What the owner of a session can set. -/
structure Settings where
  policy : AnnotationPolicy
  scope : EnvironmentScope
  styled : Bool
  rules : RuleTable

/-- Something that is done with a session: a line is answered, or the owner changes the session. -/
inductive Step where
  | line (text : String)
  | setPolicy (policy : AnnotationPolicy)
  | setScope (scope : EnvironmentScope)
  | setStyle (styled : Bool)
  | setRules (rules : RuleTable)
  | bind (name : String) (value : Value)
  | record (execution : Execution)

namespace Step

/-- The settings after the step. -/
def set (settings : Settings) : Step → Settings
  | setPolicy policy => { settings with policy := policy }
  | setScope scope => { settings with scope := scope }
  | setStyle styled => { settings with styled := styled }
  | setRules rules => { settings with rules := rules }
  | _ => settings

/-- The bound names after the step. -/
def bound (bindings : Dictionary String Value) : Step → Dictionary String Value
  | bind name value => bindings.insert name value
  | _ => bindings

/-- What the step puts on record. -/
def recorded? : Step → Option Execution
  | record execution => some execution
  | _ => none

end Step

/-- The command that is executed for an expression which a line says, if there is one. -/
def RuleTable.ownExecution? (table : RuleTable) : Expr → Option Execution
  | .command verb mood arguments =>
    match table.validate verb mood arguments with
    | .ok () => some ⟨verb, mood, arguments⟩
    | .error _ => none
  | _ => none

namespace Session

def settings (session : Session) : Settings :=
  ⟨session.policy, session.scope, session.styled, session.rules⟩

/-- The session after a step. -/
def step (session : Session) : Step → Session
  | .line text => (session.answer text).session
  | .setPolicy policy => { session with policy := policy }
  | .setScope scope => { session with scope := scope }
  | .setStyle styled => { session with styled := styled }
  | .setRules rules => session.withRules rules
  | .bind name value => { session with environment := (session.environment.bind name value).2 }
  | .record execution => { session with environment := session.environment.record execution }

/-- The session after some steps. -/
def steps (session : Session) (steps : List Step) : Session :=
  steps.foldl step session

/-- The line takes what is on record out of the shared environment. -/
def Drains (session : Session) (line : String) : Prop :=
  session.scope = .session ∧ (session.answer line).outcome.isEvaluated = true

/-- None of the steps takes what is on record out of the shared environment. -/
def Undrained (session : Session) (steps : List Step) : Prop :=
  ∀ before line behind, steps = before ++ .line line :: behind → ¬(session.steps before).Drains line

/-- What is on record after some steps and has not been handed out. -/
inductive Pending (session : Session) : List Step → List Execution → Prop
  | undrained {steps : List Step} (kept : session.Undrained steps) :
      Pending session steps (session.environment.trace ++ steps.filterMap Step.recorded?)
  /-- Only what has come on record since the last line that took everything. -/
  | drained {before behind : List Step} {line : String}
      (drains : (session.steps before).Drains line)
      (kept : (session.steps (before ++ [.line line])).Undrained behind) :
      Pending session (before ++ .line line :: behind) (behind.filterMap Step.recorded?)

variable {session : Session} {step : Step} {before : List Step}

@[simp]
theorem steps_nil : session.steps [] = session := rfl

@[simp]
theorem steps_append {behind : List Step} :
    session.steps (before ++ behind) = (session.steps before).steps behind :=
  List.foldl_append

@[simp]
theorem steps_singleton : session.steps [step] = session.step step := rfl

theorem step_line (session : Session) (text : String) :
    session.step (.line text) =
      if (session.answer text).outcome.isEvaluated then session.settled else session :=
  session.session_answer_eq text

/-! ## Settings and names -/

theorem settings_step (session : Session) (step : Step) :
    (session.step step).settings = step.set session.settings := by
  cases step with
  | line text =>
    rw [step_line]
    split <;> simp [settings, Step.set]
  | _ => rfl

theorem bindings_step (session : Session) (step : Step) :
    (session.step step).environment.bindings = step.bound session.environment.bindings := by
  cases step with
  | line text =>
    rw [step_line]
    split <;> simp [Step.bound]
  | _ => rfl

/-- The settings are those of the last steps that set them. -/
theorem settings_steps (session : Session) (steps : List Step) :
    (session.steps steps).settings = steps.foldl Step.set session.settings :=
  (List.foldl_hom settings fun session step => (session.settings_step step).symm).symm

/-- The bound names are those that the steps have bound. -/
theorem bindings_steps (session : Session) (steps : List Step) :
    (session.steps steps).environment.bindings =
      steps.foldl Step.bound session.environment.bindings :=
  (List.foldl_hom (fun session : Session => session.environment.bindings)
    fun session step => (session.bindings_step step).symm).symm

/-! ## What is on record -/

section Records

theorem environment_step_of_not_drains {line : String} (keeps : ¬session.Drains line) :
    (session.step (.line line)).environment = session.environment := by
  rw [step_line]
  split
  · next evaluated =>
    cases scope : session.scope with
    | perLine => exact environment_settled_of_perLine session scope
    | session => exact absurd ⟨scope, evaluated⟩ keeps
  · rfl

theorem trace_step_of_drains {line : String} (drains : session.Drains line) :
    (session.step (.line line)).environment.trace = [] := by
  rw [step_line, if_pos drains.2]
  exact trace_settled_of_session session drains.1

/-- The step takes nothing out of the shared environment. -/
def Keeps (session : Session) (step : Step) : Prop :=
  ∀ line, step = .line line → ¬session.Drains line

theorem trace_step_of_keeps (keeps : session.Keeps step) :
    (session.step step).environment.trace =
      session.environment.trace ++ step.recorded?.toList := by
  cases step with
  | line text => simp [environment_step_of_not_drains (keeps text rfl), Step.recorded?]
  | record execution => rfl
  | _ => exact (List.append_nil _).symm

theorem undrained_nil (session : Session) : session.Undrained [] := by
  intro before line behind whole
  simp at whole

theorem Undrained.concat (kept : session.Undrained before)
    (keeps : (session.steps before).Keeps step) : session.Undrained (before ++ [step]) := by
  intro front line behind whole
  -- The line is the last step, or it stands among the steps before.
  rcases List.eq_nil_or_concat behind with rfl | ⟨inner, last, rfl⟩
  · rcases List.append_inj' whole rfl with ⟨rfl, same⟩
    exact keeps line (List.singleton_inj.mp same)
  · have split : before ++ [step] = (front ++ .line line :: inner) ++ [last] := by
      simpa using whole
    exact kept front line inner (List.append_inj' split rfl).1

/-- A step that takes nothing out adds what it records. -/
theorem Pending.concat_of_keeps {trace : List Execution} (pending : session.Pending before trace)
    (keeps : (session.steps before).Keeps step) :
    session.Pending (before ++ [step]) (trace ++ step.recorded?.toList) := by
  have recorded (steps : List Step) :
      (steps ++ [step]).filterMap Step.recorded? =
        steps.filterMap Step.recorded? ++ step.recorded?.toList := by
    cases execution : step.recorded? <;> simp [execution]
  cases pending with
  | undrained kept =>
    rw [List.append_assoc, ← recorded]
    exact .undrained (kept.concat keeps)
  | @drained front behind line drains kept =>
    have later : ((session.steps (front ++ [.line line])).steps behind).Keeps step := by
      rwa [← steps_append, List.append_assoc, List.singleton_append]
    rw [List.append_assoc, List.cons_append, ← recorded]
    exact .drained drains (kept.concat later)

/-- A line that takes everything out leaves nothing on record. -/
theorem Pending.concat_of_drains {line : String} (drains : (session.steps before).Drains line) :
    session.Pending (before ++ [.line line]) [] :=
  .drained drains (undrained_nil _)

/-- After any steps, on record is what the steps say. -/
theorem pending_steps (session : Session) (steps : List Step) :
    session.Pending steps (session.steps steps).environment.trace := by
  induction steps using List.reverseRecOn with
  | nil => simpa using Pending.undrained session.undrained_nil
  | append_singleton before step inductionHypothesis =>
    rw [steps_append, steps_singleton]
    by_cases keeps : (session.steps before).Keeps step
    · rw [trace_step_of_keeps keeps]
      exact inductionHypothesis.concat_of_keeps keeps
    · simp only [Keeps, not_forall, not_not] at keeps
      rcases keeps with ⟨line, rfl, drains⟩
      rw [trace_step_of_drains drains]
      exact .concat_of_drains drains

end Records

/-! ## What a line hands out -/

theorem executions_leaves_of_wellFormed {rules : RuleTable} {bindings : Dictionary String Value}
    {expression : Expr} (wellFormed : expression.WellFormed) :
    rules.executions bindings expression.leaves = (rules.ownExecution? expression).toList := by
  cases expression with
  | literal text tag => rfl
  | command verb mood arguments =>
    cases checked : rules.validate verb mood arguments <;>
      simp [Expr.leaves, RuleTable.executions, RuleTable.fails, RuleTable.ownExecution?,
        Expr.execution?, checked]
  | _ => exact wellFormed.elim

/-- An evaluated line hands out what was on record and then its own command, if that was executed. -/
theorem handed_out {line : String} {expression : Expr} {value : Value} {trace : List Execution}
    (evaluated : (session.answer line).outcome = .evaluated expression value trace) :
    parseLine session.policy line = .ok expression ∧
      trace = (if session.scope = .session then session.environment.trace else []) ++
        (session.rules.ownExecution? expression).toList := by
  by_cases blank : trim line = ""
  · rw [answer_of_blank blank] at evaluated
    cases evaluated
  by_cases exit : trim line = "exit"
  · rw [answer_of_exit exit] at evaluated
    cases evaluated
  cases read : parseLine session.policy line with
  | error error =>
    rw [(answer_of_error blank exit read).1] at evaluated
    cases evaluated
  | ok found =>
    have wellFormed := Expr.wellFormed_of_spelling (Parsing.lineSpelling_of_parseLine read)
    rw [(answer_of_ok blank exit read).1] at evaluated
    cases evaluated
    refine ⟨rfl, ?_⟩
    change (session.rules.evaluate expression session.lineEnvironment).environment.trace = _
    rw [RuleTable.evaluate_eq_runLeaves, RuleTable.runLeaves,
      executions_leaves_of_wellFormed wellFormed]
    cases scope : session.scope <;> simp [lineEnvironment, scope, Environment.empty]

/--
Whatever is done with a session, step by step: the settings and the names are those that the steps
have set and bound, and on record is what has been recorded since the last line that took everything
out of the shared environment.  An evaluated line hands out what is on record there, or nothing if
it is evaluated on its own, and then its own command if the rules in force accept it.  A line that
is not evaluated, and one that is evaluated on its own, leave the shared environment as it was.
-/
theorem steps_invariant (session : Session) (steps : List Step) :
    let now := session.steps steps
    now.settings = steps.foldl Step.set session.settings ∧
      now.environment.bindings = steps.foldl Step.bound session.environment.bindings ∧
      session.Pending steps now.environment.trace ∧
      (∀ line expression value trace,
        (now.answer line).outcome = .evaluated expression value trace →
          parseLine now.policy line = .ok expression ∧
          trace = (if now.scope = .session then now.environment.trace else []) ++
            (now.rules.ownExecution? expression).toList) ∧
      ∀ line, (now.answer line).outcome.isEvaluated = false ∨ now.scope = .perLine →
        (session.steps (steps ++ [.line line])).environment = now.environment := by
  refine ⟨session.settings_steps steps, session.bindings_steps steps, session.pending_steps steps,
    fun line expression value trace evaluated => handed_out evaluated, fun line untouched => ?_⟩
  rw [steps_append, steps_singleton]
  refine environment_step_of_not_drains fun drains => ?_
  rcases untouched with unevaluated | alone
  · exact absurd drains.2 (by simp [unevaluated])
  · exact absurd (alone.symm.trans drains.1) (by decide)

/-- A record is taken out by a string, and a later one by a command under other rules. -/
theorem steps_invariant_of_two_records :
    let recorded : Execution := ⟨"sil", .optative, [.reference "x"]⟩
    let own : Execution := ⟨"git", .imperative, []⟩
    let steps : List Step :=
      [.bind "x" (.text "y"), .record recorded, .setScope .session, .line "\"ev\"",
        .record recorded, .setRules .empty]
    let now := start.steps steps
    (now.answer "git <Emir>").outcome =
        .evaluated (.command "git" .imperative []) .nothing [recorded, own] ∧
      parseLine now.policy "git <Emir>" = .ok (.command "git" .imperative []) ∧
      [recorded, own] = now.environment.trace ++
        (now.rules.ownExecution? (.command "git" .imperative [])).toList ∧
      (now.answer "exit").outcome.isEvaluated = false ∧
      (start.steps (steps ++ [.line "exit"])).environment = now.environment := by
  intro recorded own steps now
  rcases steps_invariant start steps with ⟨-, -, -, evaluated, untouched⟩
  have wellFormed : (Expr.command "git" .imperative []).WellFormed :=
    ⟨by decide, List.all_eq_true.mp (by decide +kernel), fun _ member => by cases member⟩
  have read : parseLine now.policy "git <Emir>" = .ok (.command "git" .imperative []) :=
    Parsing.parseLine_of_lineSpelling (Expr.lineSpelling_render wellFormed)
  have outcome : (now.answer "git <Emir>").outcome =
      .evaluated (.command "git" .imperative []) .nothing [recorded, own] := by
    rw [(answer_of_ok (by decide +kernel) (by decide +kernel) read).1]
    decide +kernel
  have ended : (now.answer "exit").outcome.isEvaluated = false := by decide +kernel
  rcases evaluated _ _ _ _ outcome with ⟨said, trace⟩
  exact ⟨outcome, said, trace, ended, untouched "exit" (.inl ended)⟩

end Session

end Concord
