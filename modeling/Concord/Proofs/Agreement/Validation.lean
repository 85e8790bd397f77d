import Mathlib.Tactic.SplitIfs
import Concord.Agreement.RuleTable
import Concord.Proofs.Dictionary

/-!
# What rules accept

The arguments of a command are compared with the cases that its rule asks for, position by position.
Here this is said without the comparison: which arguments a rule accepts, and which error it has for
the others.  A command agrees with its table exactly if no rule is filed for its verb and mood, or
the one that is accepts the arguments.  Otherwise the error is the one for the first position at
which a string is in another case, unless the number of arguments is wrong already.  A verb matters
to this in lower case only, and is named in the error as it was written.
-/

namespace Concord

open Unicode (lowercase)

namespace Requirement

/-- The case that is asked for at a position of the arguments. -/
def asked? : Requirement → Nat → Option Case
  | each tag, _ => some tag
  | positional tags, position => tags[position]?

/-- There are as many arguments as asked for, where their number matters. -/
def Counts : Requirement → List Expr → Prop
  | each _, _ => True
  | positional tags, arguments => tags.length = arguments.length

/-- At this position is a string in another case than the one that is asked for. -/
structure DiffersAt (requirement : Requirement) (arguments : List Expr) (position : Nat)
    (expected found : Case) : Prop where
  asks : requirement.asked? position = some expected
  string : ∃ text, arguments[position]? = some (.literal text found)
  differs : expected ≠ found

/-- The arguments that meet a requirement. -/
inductive Accepts : Requirement → List Expr → Prop
  | each (agree : ∀ text found, .literal text found ∈ arguments → found = tag) :
    Accepts (.each tag) arguments
  | positional
    (count : tags.length = arguments.length)
    (agree : ∀ (position : Nat) text found,
      arguments[position]? = some (.literal text found) → tags[position]? = some found) :
    Accepts (.positional tags) arguments

end Requirement

/-- The error with which a rule rejects the arguments of a command. -/
inductive VerbRule.Rejects (rule : VerbRule) (verb : String) (mood : Mood) (arguments : List Expr) :
    SemanticError → Prop
  | count
    (asks : rule.requirement = .positional tags)
    (differs : tags.length ≠ arguments.length) :
    Rejects rule verb mood arguments
      (.arityMismatch verb rule.gloss tags.length arguments.length)
  | tag
    (counts : rule.requirement.Counts arguments)
    (differs : rule.requirement.DiffersAt arguments position expected found)
    (first : ∀ earlier < position, ∀ other another,
      ¬ rule.requirement.DiffersAt arguments earlier other another) :
    Rejects rule verb mood arguments
      (.caseMismatch verb rule.gloss rule.role mood position expected found)

/-- The rule is filed for the verb, however that is cased, and the mood. -/
def RuleTable.Files (table : RuleTable) (verb : String) (mood : Mood) (rule : VerbRule) : Prop :=
  ((lowercase verb, mood), rule) ∈ table.rules.entries

/-! ## The first disagreement -/

/-- The pair at this index is a string with another case beside it. -/
def ClashesAt (pairs : List (Case × Expr)) (index : Nat) (expected found : Case) : Prop :=
  ∃ argument, pairs[index]? = some (expected, argument) ∧ argument.case? = some found ∧
    expected ≠ found

section FirstDisagreement

variable {start index : Nat} {tag expected found : Case} {argument : Expr}
  {pairs : List (Case × Expr)}

theorem not_clashesAt_nil : ¬ ClashesAt [] index expected found := by
  simp [ClashesAt]

theorem clashesAt_cons_zero :
    ClashesAt ((tag, argument) :: pairs) 0 expected found ↔
      tag = expected ∧ argument.case? = some found ∧ expected ≠ found := by
  simp [ClashesAt, and_assoc]

theorem clashesAt_cons_succ {pair : Case × Expr} :
    ClashesAt (pair :: pairs) (index + 1) expected found ↔
      ClashesAt pairs index expected found := by
  simp [ClashesAt]

/-- Either no pair clashes, or the first one that does is found. -/
theorem firstDisagreement_cases (start : Nat) (pairs : List (Case × Expr)) :
    (firstDisagreement start pairs = none ∧
      ∀ index expected found, ¬ ClashesAt pairs index expected found) ∨
    ∃ index expected found,
      firstDisagreement start pairs = some ⟨start + index, expected, found⟩ ∧
      ClashesAt pairs index expected found ∧
      ∀ earlier < index, ∀ other another, ¬ ClashesAt pairs earlier other another := by
  induction pairs generalizing start with
  | nil => exact .inl ⟨rfl, fun _ _ _ => not_clashesAt_nil⟩
  | cons pair pairs inductionHypothesis =>
    rcases pair with ⟨tag, argument⟩
    by_cases clash : ∃ found, argument.case? = some found ∧ tag ≠ found
    · rcases clash with ⟨found, string, differs⟩
      refine .inr ⟨0, tag, found, ?_, clashesAt_cons_zero.mpr ⟨rfl, string, differs⟩, nofun⟩
      simp only [firstDisagreement, string, if_neg differs.symm, Nat.add_zero]
    · have passes : firstDisagreement start ((tag, argument) :: pairs) =
          firstDisagreement (start + 1) pairs := by
        rw [firstDisagreement]
        split
        · rfl
        · next found string =>
          have agrees : found = tag := by
            by_contra differs
            exact clash ⟨found, string, Ne.symm differs⟩
          exact if_pos agrees
      have here : ∀ expected found, ¬ ClashesAt ((tag, argument) :: pairs) 0 expected found := by
        intro expected found first
        rcases clashesAt_cons_zero.mp first with ⟨rfl, string, differs⟩
        exact clash ⟨found, string, differs⟩
      rw [passes]
      rcases inductionHypothesis (start + 1) with ⟨none, nowhere⟩ | ⟨index, expected, found, some,
        there, first⟩
      · refine .inl ⟨none, ?_⟩
        rintro (_ | index) expected found
        · exact here expected found
        · exact clashesAt_cons_succ.not.mpr (nowhere index expected found)
      · refine .inr ⟨index + 1, expected, found, ?_, clashesAt_cons_succ.mpr there, ?_⟩
        · rw [some, Nat.add_assoc, Nat.add_comm 1 index]
        · rintro (_ | earlier) before other another
          · exact here other another
          · exact clashesAt_cons_succ.not.mpr
              (first earlier (Nat.lt_of_succ_lt_succ before) other another)

/-- Only the cases of the strings matter. -/
theorem firstDisagreement_congr {others : List (Case × Expr)}
    (same : (pairs.map fun pair => (pair.1, pair.2.case?)) =
      others.map fun pair => (pair.1, pair.2.case?)) :
    firstDisagreement start pairs = firstDisagreement start others := by
  induction pairs generalizing start others with
  | nil =>
    obtain rfl := List.map_eq_nil_iff.mp same.symm
    rfl
  | cons pair pairs inductionHypothesis =>
    cases others with
    | nil => cases same
    | cons other others =>
      obtain ⟨first, rest⟩ := List.cons.inj same
      obtain ⟨tag, string⟩ := Prod.mk.inj first
      simp only [firstDisagreement, tag, string, inductionHypothesis rest]

end FirstDisagreement

/-! ## Rules -/

namespace Requirement

variable {requirement : Requirement} {arguments : List Expr} {position : Nat}
  {expected found : Case}

/-- The arguments beside the cases that are asked for. -/
def pairs : Requirement → List Expr → List (Case × Expr)
  | each tag, arguments => arguments.map fun argument => (tag, argument)
  | positional tags, arguments => tags.zip arguments

theorem getElem?_pairs_eq_some_iff {argument : Expr} :
    (requirement.pairs arguments)[position]? = some (expected, argument) ↔
      requirement.asked? position = some expected ∧ arguments[position]? = some argument := by
  cases requirement with
  | each tag => simp [pairs, asked?, and_comm]
  | positional tags => simp [pairs, asked?, List.getElem?_zip_eq_some]

theorem clashesAt_pairs_iff :
    ClashesAt (requirement.pairs arguments) position expected found ↔
      requirement.DiffersAt arguments position expected found := by
  simp only [ClashesAt, getElem?_pairs_eq_some_iff]
  constructor
  · rintro ⟨argument, ⟨asks, there⟩, string, differs⟩
    cases argument with
    | literal text tag =>
      obtain rfl := Option.some.inj string
      exact ⟨asks, ⟨text, there⟩, differs⟩
    | _ => cases string
  · rintro ⟨asks, ⟨text, there⟩, differs⟩
    exact ⟨_, ⟨asks, there⟩, rfl, differs⟩

/-- A requirement is met where the number of arguments is right and no string differs. -/
theorem accepts_iff :
    requirement.Accepts arguments ↔ requirement.Counts arguments ∧
      ∀ position expected found, ¬ requirement.DiffersAt arguments position expected found := by
  constructor
  · rintro (agree | ⟨count, agree⟩)
    · refine ⟨trivial, fun position expected found different => ?_⟩
      obtain rfl := Option.some.inj different.asks
      rcases different.string with ⟨text, there⟩
      exact different.differs (agree text found (List.mem_of_getElem? there)).symm
    · refine ⟨count, fun position expected found different => ?_⟩
      rcases different.string with ⟨text, there⟩
      have asks := agree position text found there
      exact different.differs (Option.some.inj (different.asks.symm.trans asks))
  · rintro ⟨counts, nowhere⟩
    cases requirement with
    | each tag =>
      refine .each fun text found member => ?_
      rcases List.mem_iff_getElem?.mp member with ⟨position, there⟩
      by_contra differs
      exact nowhere position tag found ⟨rfl, ⟨text, there⟩, Ne.symm differs⟩
    | positional tags =>
      refine .positional counts fun position text found there => ?_
      have inside : position < tags.length := by
        rw [show tags.length = arguments.length from counts]
        exact (List.getElem?_eq_some_iff.mp there).1
      have asks : tags[position]? = some tags[position] := List.getElem?_eq_getElem inside
      by_contra differs
      refine nowhere position tags[position] found ⟨asks, ⟨text, there⟩, fun same => ?_⟩
      exact differs (same ▸ asks)

end Requirement

namespace VerbRule

variable {rule : VerbRule} {verb : String} {mood : Mood} {arguments : List Expr}
  {error other : SemanticError}

theorem check_of_counts (counts : rule.requirement.Counts arguments) :
    rule.check verb mood arguments = rule.agree verb mood (rule.requirement.pairs arguments) := by
  rw [check]
  cases asks : rule.requirement with
  | each tag => rfl
  | positional tags =>
    rw [asks] at counts
    exact if_pos counts

theorem check_of_not_counts (miscounts : ¬ rule.requirement.Counts arguments) :
    ∃ tags, rule.requirement = .positional tags ∧ tags.length ≠ arguments.length ∧
      rule.check verb mood arguments =
        .error (.arityMismatch verb rule.gloss tags.length arguments.length) := by
  rw [check]
  cases asks : rule.requirement with
  | each tag => exact absurd (asks ▸ trivial) miscounts
  | positional tags =>
    rw [asks] at miscounts
    exact ⟨tags, rfl, miscounts, if_neg miscounts⟩

/-- A rule accepts arguments, or rejects them with an error. -/
theorem check_cases (rule : VerbRule) (verb : String) (mood : Mood) (arguments : List Expr) :
    (rule.check verb mood arguments = .ok () ∧ rule.requirement.Accepts arguments) ∨
      ∃ error, rule.check verb mood arguments = .error error ∧
        rule.Rejects verb mood arguments error := by
  by_cases counts : rule.requirement.Counts arguments
  · rw [check_of_counts counts, agree]
    rcases firstDisagreement_cases 0 (rule.requirement.pairs arguments) with
      ⟨none, nowhere⟩ | ⟨position, expected, found, some, there, first⟩
    · simp only [Requirement.clashesAt_pairs_iff] at nowhere
      exact .inl ⟨by rw [none], Requirement.accepts_iff.mpr ⟨counts, nowhere⟩⟩
    · simp only [Requirement.clashesAt_pairs_iff] at there first
      refine .inr ⟨_, by rw [some], ?_⟩
      simpa [mismatch] using Rejects.tag counts there first
  · rcases check_of_not_counts counts with ⟨tags, asks, differs, fails⟩
    exact .inr ⟨_, fails, .count asks differs⟩

theorem Rejects.not_accepts (rejects : rule.Rejects verb mood arguments error) :
    ¬ rule.requirement.Accepts arguments := by
  intro accepts
  rcases Requirement.accepts_iff.mp accepts with ⟨counts, nowhere⟩
  cases rejects with
  | count asks differs =>
    rw [asks] at counts
    exact differs counts
  | tag _ differs _ => exact nowhere _ _ _ differs

/-- The error is known from the rule and the arguments. -/
theorem Rejects.unique (rejects : rule.Rejects verb mood arguments error)
    (others : rule.Rejects verb mood arguments other) : error = other := by
  cases rejects with
  | count asks differs =>
    cases others with
    | count otherAsks _ =>
      rw [asks] at otherAsks
      obtain rfl := Requirement.positional.inj otherAsks
      rfl
    | tag counts _ _ =>
      rw [asks] at counts
      exact absurd counts differs
  | @tag position _ _ counts differs first =>
    cases others with
    | count asks otherDiffers =>
      rw [asks] at counts
      exact absurd counts otherDiffers
    | @tag otherPosition _ _ _ otherDiffers otherFirst =>
      obtain rfl : position = otherPosition := by
        rcases Nat.lt_trichotomy position otherPosition with before | same | behind
        · exact absurd differs (otherFirst _ before _ _)
        · exact same
        · exact absurd otherDiffers (first _ behind _ _)
      obtain rfl := Option.some.inj (differs.asks.symm.trans otherDiffers.asks)
      rcases differs.string with ⟨text, there⟩
      rcases otherDiffers.string with ⟨otherText, otherThere⟩
      obtain ⟨-, rfl⟩ := Expr.literal.inj (Option.some.inj (there.symm.trans otherThere))
      rfl

theorem check_eq_ok_iff :
    rule.check verb mood arguments = .ok () ↔ rule.requirement.Accepts arguments := by
  rcases rule.check_cases verb mood arguments with ⟨ok, accepts⟩ | ⟨error, fails, rejects⟩
  · simp [ok, accepts]
  · simp [fails, rejects.not_accepts]

theorem check_eq_error_iff :
    rule.check verb mood arguments = .error error ↔ rule.Rejects verb mood arguments error := by
  rcases rule.check_cases verb mood arguments with ⟨ok, accepts⟩ | ⟨found, fails, rejects⟩
  · simpa [ok] using fun others => others.not_accepts accepts
  · rw [fails, Except.error.injEq]
    constructor
    · rintro rfl
      exact rejects
    · exact rejects.unique

/-- The check looks at nothing but the cases of the arguments. -/
theorem check_congr {others : List Expr}
    (same : others.map Expr.case? = arguments.map Expr.case?) :
    rule.check verb mood others = rule.check verb mood arguments := by
  have length : others.length = arguments.length := by
    simpa using congrArg List.length same
  rw [check, check]
  cases rule.requirement with
  | each tag =>
    simp only [agree]
    rw [firstDisagreement_congr]
    simpa [Function.comp_def] using congrArg (List.map fun found => (tag, found)) same
  | positional tags =>
    have zipped := congrArg tags.zip same
    rw [List.zip_map_right, List.zip_map_right] at zipped
    simp only [agree, length]
    rw [firstDisagreement_congr zipped]

end VerbRule

/-! ## Tables -/

namespace RuleTable

variable {table : RuleTable} {verb : String} {mood : Mood} {rule : VerbRule}

theorem lookup_eq_some_iff : table.lookup verb mood = some rule ↔ table.Files verb mood rule :=
  Dictionary.get?_eq_some_iff

theorem lookup_eq_none_iff :
    table.lookup verb mood = none ↔ (lowercase verb, mood) ∉ table.rules.keys := by
  rw [Dictionary.mem_keys_iff, ← Option.not_isSome_iff_eq_none, Option.isSome_iff_exists]
  rfl

/--
A command is accepted exactly if no rule is filed for its verb and mood, or the one that is accepts
its arguments.  Otherwise the error is the one with which the rule rejects them.  Arguments with the
same cases at the same positions are treated alike.
-/
theorem validate_reports_first_disagreement (table : RuleTable) (verb : String) (mood : Mood)
    (arguments : List Expr) :
    (table.validate verb mood arguments = .ok () ↔
      (lowercase verb, mood) ∉ table.rules.keys ∨
        ∃ rule, table.Files verb mood rule ∧ rule.requirement.Accepts arguments) ∧
    (∀ error, table.validate verb mood arguments = .error error ↔
      ∃ rule, table.Files verb mood rule ∧ rule.Rejects verb mood arguments error) ∧
    ∀ others : List Expr, others.map Expr.case? = arguments.map Expr.case? →
      table.validate verb mood others = table.validate verb mood arguments := by
  simp only [← lookup_eq_none_iff, ← lookup_eq_some_iff, validate]
  cases table.lookup verb mood with
  | none => simp
  | some rule =>
    refine ⟨?_, fun error => ?_, fun others same => rule.check_congr same⟩
    · simpa using rule.check_eq_ok_iff
    · simpa using rule.check_eq_error_iff

/-- The third of four arguments is the first in another case; a name is in none. -/
theorem validate_reports_first_disagreement_at_third_argument :
    let rule : VerbRule :=
      ⟨"Carry", "goods", .positional [.nominative, .accusative, .dative, .dative]⟩
    let table := empty.insert "GÖTÜR" .optative rule
    table.validate "Götür" .optative
      [.reference "x", .literal "ev" .accusative, .literal "su" .locative,
        .literal "yol" .ablative] =
      .error (.caseMismatch "Götür" "Carry" "goods" .optative 2 .dative .locative) := by
  intro rule table
  have filed : table.Files "Götür" .optative rule := by
    rw [← lookup_eq_some_iff]
    decide +kernel
  refine ((validate_reports_first_disagreement table _ _ _).2.1 _).mpr ⟨_, filed, ?_⟩
  refine .tag rfl ⟨rfl, ⟨"su", rfl⟩, by decide⟩ fun earlier before other another different => ?_
  rcases different.string with ⟨text, there⟩
  match earlier with
  | 0 => cases there
  | 1 =>
    cases there
    cases different.asks
    exact different.differs rfl

end RuleTable

/-! ## Verdicts on commands with other verbs -/

/-- The error for a command with another verb. -/
def SemanticError.withVerb (verb : String) : SemanticError → SemanticError
  | caseMismatch _ gloss role mood position expected found =>
    caseMismatch verb gloss role mood position expected found
  | arityMismatch _ gloss expected found => arityMismatch verb gloss expected found

/-- Two verdicts on commands with these verbs which differ in nothing but the verb. -/
inductive SameVerdict (verb other : String) :
    Except SemanticError Unit → Except SemanticError Unit → Prop
  | ok : SameVerdict verb other (.ok ()) (.ok ())
  | error (written : error.verb = verb) :
    SameVerdict verb other (.error error) (.error (error.withVerb other))

theorem VerbRule.sameVerdict_agree (rule : VerbRule) (verb other : String) (mood : Mood)
    (pairs : List (Case × Expr)) :
    SameVerdict verb other (rule.agree verb mood pairs) (rule.agree other mood pairs) := by
  unfold agree
  split
  · exact .ok
  · next found _ =>
    have written : (rule.mismatch verb mood found).verb = verb := rfl
    exact .error written

theorem VerbRule.sameVerdict_check (rule : VerbRule) (verb other : String) (mood : Mood)
    (arguments : List Expr) :
    SameVerdict verb other (rule.check verb mood arguments) (rule.check other mood arguments) := by
  unfold check
  split
  · exact rule.sameVerdict_agree verb other mood _
  · next tags _ =>
    split
    · exact rule.sameVerdict_agree verb other mood _
    · have written : (SemanticError.arityMismatch verb rule.gloss tags.length
          arguments.length).verb = verb := rfl
      exact .error written

/-- Commands whose verbs are the same in lower case agree or disagree with a table alike. -/
theorem RuleTable.sameVerdict_validate (table : RuleTable) {verb other : String}
    (same : lowercase verb = lowercase other) (mood : Mood) (arguments : List Expr) :
    SameVerdict verb other (table.validate verb mood arguments)
      (table.validate other mood arguments) := by
  have filed : table.lookup other mood = table.lookup verb mood := by
    rw [lookup, lookup, filing, filing, same]
  rw [validate, validate, filed]
  split
  · exact .ok
  · next rule _ => exact rule.sameVerdict_check verb other mood arguments

end Concord
