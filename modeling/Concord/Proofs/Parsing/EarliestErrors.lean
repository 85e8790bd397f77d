import Concord.Proofs.Parsing.Complaints
import Concord.Proofs.Parsing.ErrorPlaces

/-!
# Errors at the earliest place

A lenient parser complains as soon as it can.  What stands in front of the place of its error is the
beginning of some line, but no longer together with the next character, unless there is none or it
is the quote of a string without an end.
-/

namespace Concord.Parsing

open Source (Cursor Names Position)
open Text (splitAtByte? splitAtByte?_eq_some_iff)

/-- A line that is read leniently begins with these characters. -/
def Viable (characters : List Char) : Prop :=
  ∃ continuation expression,
    parseLine .lenient (String.ofList (characters ++ continuation)) = .ok expression

/-- Characters are the beginning of a line as long as they have a stage. -/
theorem viable_iff {characters : List Char} :
    Viable characters ↔ ∃ stage, Stage.start.after? characters = some stage := by
  constructor
  · rintro ⟨continuation, accepted⟩
    rcases (exists_parseLine_lenient_eq_ok_iff _).mp accepted with ⟨last, reads, -⟩
    rw [String.toList_ofList] at reads
    rcases Stage.exists_after?_of_append reads with ⟨stage, reads, -⟩
    exact ⟨stage, reads⟩
  · rintro ⟨stage, reads⟩
    rcases stage.exists_after?_completion with ⟨last, completes, canEnd⟩
    refine ⟨stage.completion, (exists_parseLine_lenient_eq_ok_iff _).mpr ⟨last, ?_, canEnd⟩⟩
    rw [String.toList_ofList, Stage.after?_append, reads, Option.bind_some, completes]

/-- A character that does not fit the stage of what is in front of it cannot come next. -/
theorem not_viable_of_next? {before : List Char} {stage : Stage} {c : Char}
    (reads : Stage.start.after? before = some stage) (stops : stage.next? c = none) :
    ¬ Viable (before ++ [c]) := by
  rw [viable_iff, Stage.after?_append, reads, Option.bind_some, Stage.after?_cons, stops]
  rintro ⟨later, ⟨⟩⟩

/--
The line and the column of a lenient error name one place.  What is in front of it is the beginning
of a line, and the error comes as early as it can: unless it is about a string without an end, no
line begins with the next character as well.  There is none exactly if the error is about the end of
the input.
-/
theorem parseLine_lenient_error_earliest {source : String} {error : Error}
    (rejected : parseLine .lenient source = .error error) :
    ∃ message line column context offset before behind,
      error = .ofKind (.parse message line column context) ∧
      splitAtByte? source.toList offset = some (before, behind) ∧
      Names line column before ∧
      (∀ other front back, splitAtByte? source.toList other = some (front, back) →
        Names line column front → other = offset) ∧
      Viable before ∧
      (behind = [] ↔ "found end of input".toList <:+ message.toList) ∧
      (message ≠ "unterminated string literal" →
        ∀ c rest, behind = c :: rest → ¬ Viable (before ++ [c])) := by
  cases outcome : (parseRest .lenient (Cursor.ofText source)).result with
  | ok expression =>
    rw [parseLine_eq_ok_iff_parseRest.mpr outcome] at rejected
    cases rejected
  | error cause =>
    rw [parseLine_of_parseRest_error outcome] at rejected
    obtain rfl := Except.error.inj rejected
    cases (parseRest_traces .lenient (Cursor.ofText source)).stuck cause outcome with
    | @token before cursor stage kind covered rest expected reaches lexeme ahead refuses =>
      have whole : source.toList = before ++ (covered ++ rest) := ahead ▸ reaches.passes.rest
      have place : cursor.position = Position.start.after before := reaches.passes.position
      have names := Position.names_after_start before
      rw [← place] at names
      have fits : (SyntaxFault.ofToken expected kind).Fits before (covered ++ rest) :=
        SyntaxFault.fits_ofToken lexeme expected
      refine ⟨_, _, _, _, Text.byteLength before, before, covered ++ rest, rfl,
        splitAtByte?_eq_some_iff.mpr ⟨whole, rfl⟩, names, ?_, viable_iff.mpr ⟨stage, reaches.reads⟩,
        ⟨fun none => ?_, fits.message.ended⟩, ?_⟩
      · intro other front back split named
        rcases splitAtByte?_eq_some_iff.mp split with ⟨same, rfl⟩
        rw [named.unique names (same.symm.trans whole)]
      · obtain ⟨rfl, rfl⟩ := List.append_eq_nil_iff.mp none
        cases lexeme
        exact SyntaxFault.endOfInput_suffix_iff.mpr ⟨expected, rfl⟩
      · intro closed c others next
        have terminated : kind ≠ .fault .unterminatedString := by
          rintro rfl
          exact closed rfl
        exact not_viable_of_next? reaches.reads (refuses.next?_eq_none lexeme terminated next)
    | name strict => cases strict

/-- A verb takes a mood, but no string takes one. -/
theorem parseLine_lenient_error_earliest_at_second_mood :
    let source := "git <Emir> \"ev\" <"
    parseLine .lenient source = .error (.ofKind
        (.parse "expected string literal or end of input, found '<'" 1 17 source)) ∧
      Viable "git <Emir> \"ev\" ".toList ∧ ¬ Viable source.toList := by
  intro source
  have rejected : parseLine .lenient source = .error (.ofKind
      (.parse "expected string literal or end of input, found '<'" 1 17 source)) := by
    decide +kernel
  rcases parseLine_lenient_error_earliest rejected with
    ⟨message, line, column, context, offset, before, behind, same, split, names, -, viable, -, dead⟩
  obtain ⟨rfl, rfl, rfl, rfl⟩ : _ = message ∧ _ = line ∧ _ = column ∧ _ = context := by
    simpa [Error.ofKind] using same
  rcases splitAtByte?_eq_some_iff.mp split with ⟨whole, -⟩
  have place : Names 1 17 "git <Emir> \"ev\" ".toList := by
    refine ⟨?_, ?_⟩ <;> decide
  have cut : "git <Emir> \"ev\" ".toList ++ ['<'] = source.toList := by
    decide
  obtain rfl := place.unique names (cut.trans whole)
  have next : behind = '<' :: [] := (List.append_cancel_left (cut.trans whole)).symm
  exact ⟨rejected, viable, cut ▸ dead (by decide) '<' [] next⟩

end Concord.Parsing
