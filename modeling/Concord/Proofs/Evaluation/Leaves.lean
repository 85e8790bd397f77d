import Mathlib.Data.List.TakeWhile
import Concord.Evaluation.Evaluate

/-!
# Evaluation as a run over leaves

Sequences only say in which order things are evaluated.  The leaves of an expression are the
expressions reached through sequences alone, from left to right; the arguments of a command are no
leaves.  Evaluating an expression is running its leaves in order up to the first that fails: the
commands before it are executed and nothing else is.  What a leaf comes to depends on the rules and
on the bindings, which no leaf changes, so it does not matter what was executed before.
-/

namespace Concord

namespace Expr

mutual

/-- The expressions reached through sequences alone, in order. -/
def leaves : Expr → List Expr
  | sequence items => leavesAll items
  | leaf => [leaf]

/-- The leaves of expressions, in order. -/
def leavesAll : List Expr → List Expr
  | [] => []
  | item :: items => leaves item ++ leavesAll items

end

mutual

/-- The leaf reached by going to the last item of each sequence, unless a sequence is empty. -/
def lastLeaf? : Expr → Option Expr
  | sequence items => lastLeafAll? items
  | leaf => some leaf

/-- The leaf reached from the last of several expressions. -/
def lastLeafAll? : List Expr → Option Expr
  | [] => none
  | item :: items => if items.isEmpty then lastLeaf? item else lastLeafAll? items

end

/-- The execution of a command. -/
def execution? : Expr → Option Execution
  | command verb mood arguments => some ⟨verb, mood, arguments⟩
  | _ => none

mutual

theorem mem_leaves_of_lastLeaf? {last : Expr} :
    ∀ {expression : Expr}, expression.lastLeaf? = some last → last ∈ expression.leaves
  | literal .., found | reference _, found | command .., found => by
    simp_all [lastLeaf?, leaves]
  | sequence items, found => by
    simp only [lastLeaf?] at found
    simpa [leaves] using mem_leavesAll_of_lastLeafAll? found

theorem mem_leavesAll_of_lastLeafAll? {last : Expr} :
    ∀ {items : List Expr}, lastLeafAll? items = some last → last ∈ leavesAll items
  | [], found => by simp [lastLeafAll?] at found
  | item :: items, found => by
    rw [lastLeafAll?] at found
    rw [leavesAll, List.mem_append]
    split at found
    · exact .inl (mem_leaves_of_lastLeaf? found)
    · exact .inr (mem_leavesAll_of_lastLeafAll? found)

end

end Expr

namespace RuleTable

variable (table : RuleTable) (bindings : Dictionary String Value)

/-- Whether a leaf fails: a command that is rejected, or a name without a value or with a failure. -/
def fails : Expr → Bool
  | .command verb mood arguments =>
    match table.validate verb mood arguments with
    | .error _ => true
    | .ok () => false
  | .reference name =>
    match bindings.get? name with
    | none => true
    | some value => value.isFailure
  | _ => false

/-- The value of a leaf. -/
def leafValue : Expr → Value
  | .literal text _ => .text text
  | .reference name => (bindings.get? name).getD (.failure ("unbound variable '" ++ name ++ "'"))
  | .command verb mood arguments =>
    match table.validate verb mood arguments with
    | .error error => .failure (Error.ofKind (.semantic error)).message
    | .ok () => .nothing
  | .sequence _ => .nothing

/-- The commands executed in a run over leaves: those before the first leaf that fails. -/
def executions (leaves : List Expr) : List Execution :=
  (leaves.takeWhile fun leaf => !table.fails bindings leaf).filterMap Expr.execution?

/-- What is noted of a leaf at which a run stops. -/
def rejection? : Expr → Option LogEvent
  | .command verb mood arguments =>
    match table.validate verb mood arguments with
    | .error error => some (.commandRejected verb mood error)
    | .ok () => none
  | _ => none

/-- The value that an expression has unless one of its leaves fails. -/
def finalValue (expression : Expr) : Value :=
  (expression.lastLeaf?.map (table.leafValue bindings)).getD .nothing

/-- A run over leaves up to the first that fails; `final` is the value if none does. -/
def runLeaves (leaves : List Expr) (final : Value) (environment : Environment) : Evaluation :=
  let stop := leaves.find? (table.fails environment.bindings)
  let executed := table.executions environment.bindings leaves
  ⟨(stop.map (table.leafValue environment.bindings)).getD final,
    ⟨environment.bindings, environment.trace ++ executed⟩,
    executed.map .commandExecuted ++ stop.toList.filterMap table.rejection?⟩

/-! ## Runs in two parts -/

theorem isFailure_leafValue (leaf : Expr) :
    (table.leafValue bindings leaf).isFailure = table.fails bindings leaf := by
  cases leaf with
  | literal text tag => rfl
  | reference name =>
    cases found : bindings.get? name <;> simp [leafValue, fails, found, Value.isFailure]
  | command verb mood arguments =>
    cases checked : table.validate verb mood arguments <;>
      simp [leafValue, fails, checked, Value.isFailure]
  | sequence items => rfl

variable {table bindings}

theorem executions_append_of_fails {first second : List Expr}
    (failing : ∃ leaf ∈ first, table.fails bindings leaf = true) :
    table.executions bindings (first ++ second) = table.executions bindings first := by
  rcases failing with ⟨leaf, member, failing⟩
  rw [executions, executions, List.takeWhile_append, if_neg]
  intro whole
  have passes := List.takeWhile_eq_self_iff.mp
    ((List.takeWhile_prefix _).eq_of_length whole) leaf member
  simp [failing] at passes

theorem executions_append_of_passes {first second : List Expr}
    (passing : ∀ leaf ∈ first, table.fails bindings leaf = false) :
    table.executions bindings (first ++ second) =
      table.executions bindings first ++ table.executions bindings second := by
  have passes : ∀ leaf ∈ first, (!table.fails bindings leaf) = true := by
    intro leaf member
    simp [passing leaf member]
  rw [executions, executions, executions, List.takeWhile_append_of_pos passes,
    List.takeWhile_eq_self_iff.mpr passes, List.filterMap_append]

variable {environment : Environment}

/-- A run ends at a failing leaf, whatever would come behind. -/
theorem runLeaves_append_of_fails {first second : List Expr} {final other : Value}
    (failing : ∃ leaf ∈ first, table.fails environment.bindings leaf = true) :
    table.runLeaves (first ++ second) final environment =
      table.runLeaves first other environment := by
  have stop := List.find?_isSome.mpr failing
  rcases Option.isSome_iff_exists.mp stop with ⟨leaf, found⟩
  simp [runLeaves, executions_append_of_fails failing, found]

/-- A run goes on behind leaves that pass. -/
theorem runLeaves_append_of_passes {first second : List Expr} {final other : Value}
    (passing : ∀ leaf ∈ first, table.fails environment.bindings leaf = false) :
    table.runLeaves (first ++ second) final environment =
      let before := table.runLeaves first other environment
      let behind := table.runLeaves second final before.environment
      ⟨behind.value, behind.environment, before.events ++ behind.events⟩ := by
  have stop : first.find? (table.fails environment.bindings) = none := by
    simpa using passing
  simp [runLeaves, executions_append_of_passes passing, stop]

theorem isFailure_runLeaves_of_fails {leaves : List Expr} {final : Value}
    (failing : ∃ leaf ∈ leaves, table.fails environment.bindings leaf = true) :
    (table.runLeaves leaves final environment).value.isFailure = true := by
  have stop := List.find?_isSome.mpr failing
  rcases Option.isSome_iff_exists.mp stop with ⟨leaf, found⟩
  simpa [runLeaves, found, isFailure_leafValue] using List.find?_some found

theorem value_runLeaves_of_passes {leaves : List Expr} {final : Value}
    (passing : ∀ leaf ∈ leaves, table.fails environment.bindings leaf = false) :
    (table.runLeaves leaves final environment).value = final := by
  have stop : leaves.find? (table.fails environment.bindings) = none := by
    simpa using passing
  simp [runLeaves, stop]

theorem isFailure_finalValue_of_passes {expression : Expr}
    (passing : ∀ leaf ∈ expression.leaves, table.fails bindings leaf = false) :
    (table.finalValue bindings expression).isFailure = false := by
  cases last : expression.lastLeaf? with
  | none => simp [finalValue, last, Value.isFailure]
  | some leaf =>
    have passes := passing leaf (Expr.mem_leaves_of_lastLeaf? last)
    simpa [finalValue, last, isFailure_leafValue] using passes

theorem finalValue_sequence_cons {item : Expr} {items : List Expr} :
    table.finalValue bindings (.sequence (item :: items)) =
      if items.isEmpty then table.finalValue bindings item
        else table.finalValue bindings (.sequence items) := by
  cases items <;> rfl

/-! ## Evaluation -/

/-- A leaf that is no command leaves everything as it is. -/
theorem runLeaves_of_no_execution (leaf : Expr) (idle : leaf.execution? = none)
    (silent : table.rejection? leaf = none) :
    table.runLeaves [leaf] (table.leafValue environment.bindings leaf) environment =
      ⟨table.leafValue environment.bindings leaf, environment, []⟩ := by
  cases failing : table.fails environment.bindings leaf <;>
    simp [runLeaves, executions, failing, idle, silent]

theorem runLeaves_command {verb : String} {mood : Mood} {arguments : List Expr} :
    table.runLeaves [.command verb mood arguments]
        (table.leafValue environment.bindings (.command verb mood arguments)) environment =
      table.execute verb mood arguments environment := by
  cases checked : table.validate verb mood arguments <;>
    simp [execute, runLeaves, executions, Expr.execution?, leafValue, fails, rejection?, checked,
      Environment.record]

mutual

/-- Evaluating an expression is running its leaves. -/
theorem evaluate_eq_runLeaves (table : RuleTable) :
    ∀ (expression : Expr) (environment : Environment),
      table.evaluate expression environment =
        table.runLeaves expression.leaves (table.finalValue environment.bindings expression)
          environment
  | .literal text tag, environment => by
    rw [evaluate]
    exact (runLeaves_of_no_execution (.literal text tag) rfl rfl).symm
  | .reference name, environment => by
    rw [evaluate]
    exact (runLeaves_of_no_execution (.reference name) rfl rfl).symm
  | .command verb mood arguments, environment => by
    rw [evaluate]
    exact runLeaves_command.symm
  | .sequence items, environment => by
    rw [evaluate, evaluateAll_eq_runLeaves]
    cases items with
    | nil => rfl
    | cons item items => rfl

/-- Evaluating expressions one after the other is running their leaves. -/
theorem evaluateAll_eq_runLeaves (table : RuleTable) :
    ∀ (items : List Expr) (last : Value) (environment : Environment),
      table.evaluateAll items last environment =
        table.runLeaves (Expr.leavesAll items)
          (if items.isEmpty then last else table.finalValue environment.bindings (.sequence items))
          environment
  | [], last, environment => by
    simp [evaluateAll, Expr.leavesAll, runLeaves, executions]
  | item :: items, last, environment => by
    have first := table.evaluate_eq_runLeaves item environment
    rw [evaluateAll, Expr.leavesAll]
    -- A failing leaf of the first item keeps the other items from being reached.
    by_cases failing : ∃ leaf ∈ item.leaves, table.fails environment.bindings leaf = true
    · rw [runLeaves_append_of_fails failing, ← first]
      simp [first, isFailure_runLeaves_of_fails failing]
    · have passing : ∀ leaf ∈ item.leaves, table.fails environment.bindings leaf = false := by
        simpa using failing
      have value : (table.evaluate item environment).value =
          table.finalValue environment.bindings item := by
        rw [first, value_runLeaves_of_passes passing]
      have passes : (table.evaluate item environment).value.isFailure = false := by
        rw [value, isFailure_finalValue_of_passes passing]
      have bindings : (table.evaluate item environment).environment.bindings =
          environment.bindings := by
        rw [first]
        rfl
      have final : (if (item :: items).isEmpty then last
            else table.finalValue environment.bindings (.sequence (item :: items))) =
          if items.isEmpty then table.finalValue environment.bindings item
            else table.finalValue environment.bindings (.sequence items) :=
        finalValue_sequence_cons
      rw [runLeaves_append_of_passes passing, ← first, passes, evaluateAll_eq_runLeaves,
        bindings, value, final]
      rfl

end

/-! ## What a run does -/

/-- Only commands that agree with their rules are executed. -/
theorem validate_of_mem_executions {leaves : List Expr} {execution : Execution}
    (member : execution ∈ table.executions bindings leaves) :
    table.validate execution.verb execution.mood execution.arguments = .ok () := by
  rcases List.mem_filterMap.mp member with ⟨leaf, before, executed⟩
  have passes := List.mem_takeWhile_imp before
  cases leaf with
  | command verb mood arguments =>
    rcases Option.some.inj executed with rfl
    cases checked : table.validate verb mood arguments with
    | ok => rfl
    | error error => simp [fails, checked] at passes
  | _ => cases executed

theorem isFailure_evaluate_iff (expression : Expr) :
    (table.evaluate expression environment).value.isFailure = true ↔
      ∃ leaf ∈ expression.leaves, table.fails environment.bindings leaf = true := by
  rw [evaluate_eq_runLeaves]
  constructor
  · intro failed
    by_contra none
    have passing : ∀ leaf ∈ expression.leaves, table.fails environment.bindings leaf = false := by
      simpa using none
    rw [value_runLeaves_of_passes passing, isFailure_finalValue_of_passes passing] at failed
    cases failed
  · exact isFailure_runLeaves_of_fails

/--
Evaluation is the run over the leaves, which stops at the first that fails.  The bindings stay, the
trace grows by the commands before that leaf, all of which agree with their rules, and the value is
the failure of that leaf or, without one, the value of the last leaf.
-/
theorem evaluate_stops_at_first_failure (table : RuleTable) (expression : Expr)
    (environment : Environment) :
    let evaluation := table.evaluate expression environment
    let executed := table.executions environment.bindings expression.leaves
    let failing := expression.leaves.find? (table.fails environment.bindings)
    evaluation.environment.bindings = environment.bindings ∧
      evaluation.environment.trace = environment.trace ++ executed ∧
      (∀ execution ∈ executed,
        table.validate execution.verb execution.mood execution.arguments = .ok ()) ∧
      (evaluation.value.isFailure = true ↔ failing.isSome = true) ∧
      evaluation.value = (failing.map (table.leafValue environment.bindings)).getD
        (table.finalValue environment.bindings expression) := by
  refine ⟨?_, ?_, fun execution member => validate_of_mem_executions member, ?_, ?_⟩
  · rw [evaluate_eq_runLeaves, runLeaves]
  · rw [evaluate_eq_runLeaves, runLeaves]
  · rw [isFailure_evaluate_iff, List.find?_isSome]
  · rw [evaluate_eq_runLeaves, runLeaves]

end RuleTable

end Concord
