import Mathlib.Data.List.Induction
import Concord.CommandLine.Options

/-!
# Options as a set

Options are taken in from left to right, and yet only the set of them matters: at every point, what
has been taken in is what the arguments so far ask for as a set.  The order shows only in a
complaint, which is about the first argument that is no option or that contradicts an earlier one.
-/

namespace Concord.CommandLine

/-- Every option, in each of its spellings. -/
def spellings : List String :=
  ["-h", "--help", "-V", "--version", "--no-banner", "--strict", "--persist", "--interactive",
    "--pipe"]

/-- The argument is no option, or it asks for another input mode than an earlier one. -/
def Offends (earlier : List String) (argument : String) : Prop :=
  argument ∉ spellings ∨ (argument = "--interactive" ∧ "--pipe" ∈ earlier) ∨
    (argument = "--pipe" ∧ "--interactive" ∈ earlier)

/-- What is said of an argument that offends. -/
def offenceText (argument : String) : String :=
  if argument ∈ spellings then "--interactive and --pipe are mutually exclusive"
  else if argument.toList.head? = some '-' then "unknown option: " ++ argument
  else "unexpected argument: " ++ argument

/-- No argument offends. -/
def Harmless (arguments : List String) : Prop :=
  ∀ front argument later, arguments = front ++ argument :: later → ¬ Offends front argument

/-- Both input modes are asked for. -/
def Contradictory (arguments : List String) : Prop :=
  "--interactive" ∈ arguments ∧ "--pipe" ∈ arguments

/-! ## Arguments that offend -/

theorem harmless_nil : Harmless [] := by
  intro front argument later nothing
  simp at nothing

/-- The last of several arguments is the only one that the arguments before it do not see. -/
theorem harmless_concat {arguments : List String} {last : String} :
    Harmless (arguments ++ [last]) ↔ Harmless arguments ∧ ¬ Offends arguments last := by
  constructor
  · intro harmless
    refine ⟨fun front argument later split => ?_, harmless arguments last [] rfl⟩
    exact harmless front argument (later ++ [last]) (by simp [split])
  · rintro ⟨harmless, fits⟩ front argument later split
    rcases List.eq_nil_or_concat later with rfl | ⟨others, other, rfl⟩
    · obtain ⟨rfl, same⟩ := List.append_inj' split rfl
      obtain rfl := (List.cons.inj same).1
      exact fits
    · rw [List.concat_eq_append, ← List.cons_append, ← List.append_assoc] at split
      exact harmless front argument others (List.append_inj_left' split rfl)

theorem harmless_iff {arguments : List String} :
    Harmless arguments ↔
      (∀ argument ∈ arguments, argument ∈ spellings) ∧ ¬ Contradictory arguments := by
  induction arguments using List.reverseRecOn with
  | nil => simp [harmless_nil, Contradictory]
  | append_singleton arguments last inductionHypothesis =>
    have different : "--interactive" ≠ "--pipe" := by decide
    rw [harmless_concat, inductionHypothesis]
    simp only [Offends, Contradictory, List.mem_append, List.mem_singleton]
    grind

/-- Arguments of which one offends have a first that does. -/
theorem exists_first_offence {arguments : List String} (harm : ¬ Harmless arguments) :
    ∃ before argument later, arguments = before ++ argument :: later ∧ Harmless before ∧
      Offends before argument := by
  induction arguments using List.reverseRecOn with
  | nil => exact absurd harmless_nil harm
  | append_singleton arguments last inductionHypothesis =>
    by_cases harmless : Harmless arguments
    · rw [harmless_concat, not_and, not_not] at harm
      exact ⟨arguments, last, [], rfl, harmless, harm harmless⟩
    · rcases inductionHypothesis harmless with ⟨before, argument, later, rfl, first⟩
      exact ⟨before, argument, later ++ [last], by simp, first⟩

namespace UsageError

/-- The error of an argument that offends. -/
def ofOffence (argument : String) : UsageError :=
  if argument ∈ spellings then .conflictingModes else .ofArgument argument

theorem toError_ofOffence (argument : String) :
    (ofOffence argument).toError = .ofKind (.config (offenceText argument)) := by
  unfold ofOffence offenceText ofArgument
  split_ifs <;> rfl

end UsageError

namespace Options

/-! ## Taking in one argument -/

/-- What a set of options asks for. -/
def requested (arguments : List String) : Options where
  help := "-h" ∈ arguments ∨ "--help" ∈ arguments
  version := "-V" ∈ arguments ∨ "--version" ∈ arguments
  hidesBanner := "--no-banner" ∈ arguments
  policy := if "--strict" ∈ arguments then .strict else .lenient
  scope := if "--persist" ∈ arguments then .session else .perLine
  input :=
    if "--interactive" ∈ arguments then .interactive
    else if "--pipe" ∈ arguments then .pipe
    else .auto

/-- What is asked for does not depend on the order of arguments, nor on how often they come. -/
theorem requested_congr {arguments others : List String}
    (same : ∀ argument, argument ∈ others ↔ argument ∈ arguments) :
    requested others = requested arguments := by
  simp only [requested, same]

theorem accept_of_not_mem {options : Options} {argument : String} (unknown : argument ∉ spellings) :
    options.accept argument = .error (.ofArgument argument) := by
  simp only [spellings, List.mem_cons, List.not_mem_nil, or_false, not_or] at unknown
  unfold accept
  split <;> simp_all

/-- An option that does not offend adds to what is asked for. -/
theorem accept_requested {earlier : List String} {argument : String}
    (fits : ¬ Offends earlier argument) :
    (requested earlier).accept argument = .ok (requested (earlier ++ [argument])) := by
  simp only [Offends, not_or, not_not, not_and] at fits
  rcases fits with ⟨known, interactive, pipe⟩
  simp only [spellings, List.mem_cons, List.not_mem_nil, or_false] at known
  rcases known with rfl | rfl | rfl | rfl | rfl | rfl | rfl | rfl | rfl
  iterate 7 · simp [accept, requested]
  · have alone := interactive rfl
    by_cases again : "--interactive" ∈ earlier <;>
      simp [accept, withInput, requested, alone, again]
  · have alone := pipe rfl
    by_cases again : "--pipe" ∈ earlier <;>
      simp [accept, withInput, requested, alone, again]

/-- An argument that offends is complained of. -/
theorem accept_of_offends {earlier : List String} {argument : String}
    (harmless : ¬ Contradictory earlier) (offends : Offends earlier argument) :
    (requested earlier).accept argument = .error (.ofOffence argument) := by
  by_cases known : argument ∈ spellings
  · rw [UsageError.ofOffence, if_pos known]
    rcases offends with unknown | ⟨rfl, pipe⟩ | ⟨rfl, interactive⟩
    · exact absurd known unknown
    · have other : "--interactive" ∉ earlier := fun both => harmless ⟨both, pipe⟩
      simp [accept, withInput, requested, pipe, other]
    · simp [accept, withInput, requested, interactive]
  · rw [UsageError.ofOffence, if_neg known, accept_of_not_mem known]

/-! ## Taking in all arguments -/

theorem acceptAll_append (options : Options) (first second : List String) :
    options.acceptAll (first ++ second) =
      (options.acceptAll first).bind fun taken => taken.acceptAll second := by
  induction first generalizing options with
  | nil => rfl
  | cons argument others inductionHypothesis =>
    simp only [List.cons_append, acceptAll]
    cases options.accept argument with
    | error error => rfl
    | ok taken => exact inductionHypothesis taken

theorem acceptAll_of_harmless {arguments : List String} (harmless : Harmless arguments) :
    none.acceptAll arguments = .ok (requested arguments) := by
  induction arguments using List.reverseRecOn with
  | nil => rfl
  | append_singleton arguments last inductionHypothesis =>
    rcases harmless_concat.mp harmless with ⟨before, fits⟩
    rw [acceptAll_append, inductionHypothesis before]
    simp [Except.bind, acceptAll, accept_requested fits]

/-- Whatever comes behind the first argument that offends is not looked at. -/
theorem acceptAll_of_offends {before later : List String} {argument : String}
    (harmless : Harmless before) (offends : Offends before argument) :
    none.acceptAll (before ++ argument :: later) = .error (.ofOffence argument) := by
  have compatible := (harmless_iff.mp harmless).2
  rw [acceptAll_append, acceptAll_of_harmless harmless]
  simp [Except.bind, acceptAll, accept_of_offends compatible offends]

theorem parse_of_harmless {words : List String} (harmless : Harmless (words.drop 1)) :
    parse words = .ok (requested (words.drop 1)) := by
  rw [parse, acceptAll_of_harmless harmless]
  rfl

theorem parse_of_offends {words before later : List String} {argument : String}
    (split : words.drop 1 = before ++ argument :: later) (harmless : Harmless before)
    (offends : Offends before argument) :
    parse words = .error (.ofKind (.config (offenceText argument))) := by
  rw [parse, split, acceptAll_of_offends harmless offends, Except.mapError,
    UsageError.toError_ofOffence]

/--
A command line is understood exactly if every argument is an option and not both input modes are
asked for, and then only the set of its arguments matters.  Otherwise the first argument from the
left that is no option, or that contradicts an earlier one, fixes the error, whatever comes behind.
-/
theorem parse_depends_on_set (words : List String) :
    ((∃ options, parse words = .ok options) ↔
      (∀ argument ∈ words.drop 1, argument ∈ spellings) ∧
        ¬ ("--interactive" ∈ words.drop 1 ∧ "--pipe" ∈ words.drop 1)) ∧
    (∀ options, parse words = .ok options →
      options = requested (words.drop 1) ∧
        ∀ others : List String, (∀ argument, argument ∈ others.drop 1 ↔ argument ∈ words.drop 1) →
          parse others = .ok options) ∧
    (∀ error, parse words = .error error →
      ∃ before argument later, words.drop 1 = before ++ argument :: later ∧
        Offends before argument ∧
        (∀ front other between, before = front ++ other :: between → ¬ Offends front other) ∧
        error = .ofKind (.config (offenceText argument)) ∧
        ∀ program others, parse (program :: (before ++ argument :: others)) = .error error) := by
  by_cases harmless : Harmless (words.drop 1)
  · have parsed := parse_of_harmless harmless
    refine ⟨iff_of_true ⟨_, parsed⟩ (harmless_iff.mp harmless), fun options read => ?_,
      fun error failed => ?_⟩
    · obtain rfl := Except.ok.inj (parsed.symm.trans read)
      refine ⟨rfl, fun others same => ?_⟩
      have alsoHarmless : Harmless (others.drop 1) := by
        rw [harmless_iff] at harmless ⊢
        simpa only [Contradictory, same] using harmless
      rw [parse_of_harmless alsoHarmless, requested_congr same]
    · rw [parsed] at failed
      cases failed
  · rcases exists_first_offence harmless with ⟨before, argument, later, split, first, offends⟩
    have failed := parse_of_offends split first offends
    refine ⟨iff_of_false ?_ (harmless_iff.not.mp harmless), fun options read => ?_,
      fun error same => ?_⟩
    · rintro ⟨options, read⟩
      rw [failed] at read
      cases read
    · rw [failed] at read
      cases read
    · obtain rfl := Except.error.inj (failed.symm.trans same)
      refine ⟨before, argument, later, split, offends, first, rfl, fun program others => ?_⟩
      exact parse_of_offends rfl first offends

/-- Repeated options in two orders, and an unknown option in front of a contradiction. -/
theorem parse_depends_on_set_of_repeated :
    parse ["kip", "--pipe", "-h", "--pipe", "--strict"] =
        .ok ⟨true, false, false, .strict, .perLine, .pipe⟩ ∧
      parse ["", "--strict", "-h", "--pipe", "-h"] =
        .ok ⟨true, false, false, .strict, .perLine, .pipe⟩ ∧
      parse ["kip", "--help", "--pipe", "-x", "--interactive"] =
        .error (.ofKind (.config "unknown option: -x")) ∧
      ∃ before argument later,
        ["--help", "--pipe", "-x", "--interactive"] = before ++ argument :: later ∧
          Offends before argument ∧
          ∀ program others, parse (program :: (before ++ argument :: others)) =
            .error (.ofKind (.config "unknown option: -x")) := by
  have read : parse ["kip", "--pipe", "-h", "--pipe", "--strict"] =
      .ok ⟨true, false, false, .strict, .perLine, .pipe⟩ := by
    decide
  have failed : parse ["kip", "--help", "--pipe", "-x", "--interactive"] =
      .error (.ofKind (.config "unknown option: -x")) := by
    decide
  refine ⟨read, ?_, failed, ?_⟩
  · refine ((parse_depends_on_set _).2.1 _ read).2 _ fun argument => ?_
    simp only [List.drop_succ_cons, List.drop_zero, List.mem_cons, List.not_mem_nil, or_false]
    tauto
  · rcases (parse_depends_on_set _).2.2 _ failed with
      ⟨before, argument, later, split, offends, -, -, stays⟩
    exact ⟨before, argument, later, split, offends, stays⟩

end Options

end Concord.CommandLine
