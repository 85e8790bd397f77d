import Concord.Proofs.Parsing.Messages
import Concord.Proofs.Parsing.Progress
import Concord.Proofs.Source.Places

/-!
# Places of errors

A parser can be asked for a line again, also after an error, and goes on where it stopped.  Whenever
it fails, the report is true of its source: the line and the column name a place, the context is the
line of this place, and what the message says is found there.
-/

namespace Concord.Parsing

open Source (Cursor Inside Lexeme Names Position)
open Text (byteLength lastLine lineAround slice? slice?_eq_some_iff splitAtByte?
  splitAtByte?_eq_some_iff trim)

/-! ## Faults at their places -/

/-- The name of an annotation begins right here, behind its opening delimiter. -/
def NameAhead (category : Category) (name : String) (before behind : List Char) : Prop :=
  ∃ front written rest, before = front ++ [category.opening] ∧ behind = written ++ rest ∧
    (∀ c ∈ written, Inside category.closing c) ∧ (∀ c ∈ rest.head?, ¬ Inside category.closing c) ∧
    name = trim (String.ofList written)

/-- What a fault says is true of the characters before and behind this place. -/
def SyntaxFault.Fits (before behind : List Char) : SyntaxFault → Prop
  | lexical (.unexpectedCharacter c) => behind.head? = some c
  | lexical .unterminatedString => ∃ text, behind = '"' :: text ∧ '"' ∉ text
  | unexpected _ .endOfInput => behind = []
  | unexpected _ _ => True
  | missingName category => NameAhead category "" before behind
  | unknownName category name => NameAhead category name before behind

namespace SyntaxFault

theorem fits_ofToken {kind : Source.TokenKind} {before covered rest : List Char}
    (lexeme : Lexeme kind covered rest) (expected : Expectation) :
    (ofToken expected kind).Fits before (covered ++ rest) := by
  cases lexeme with
  | @unterminated text unquoted => exact ⟨text, List.append_nil _, unquoted⟩
  | unexpected => exact rfl
  | endOfInput => exact rfl
  | _ => trivial

theorem fits_ofName {category : Category} {name : String} {before behind : List Char}
    (ahead : NameAhead category name before behind) :
    (ofName category name).Fits before behind := by
  unfold ofName
  split
  · next empty =>
    subst empty
    exact ahead
  · exact ahead

end SyntaxFault

/-- A reader is stuck at a place of its source, and the fault fits this place. -/
theorem Stuck.exists_place {policy : AnnotationPolicy} {first origin : Cursor}
    {passed : List Char} {error : SyntaxError} (stuck : Stuck policy origin error)
    (passes : first.Passes passed origin) :
    ∃ before behind, first.rest = before ++ behind ∧
      error.position = first.position.after before ∧ error.fault.Fits before behind := by
  cases stuck with
  | @token before cursor _ _ covered rest expected reaches lexeme ahead refuses =>
    have place := passes.trans reaches.passes
    refine ⟨passed ++ before, covered ++ rest, ?_, place.position, ?_⟩
    · rw [place.rest, ahead]
    · exact SyntaxFault.fits_ofToken lexeme expected
  | @name before cursor category _ name rest strict reaches ahead inside stops =>
    have place := passes.trans reaches.passes
    have named : NameAhead category (trim (String.ofList name))
        (passed ++ (before ++ [category.opening])) (name ++ rest) :=
      ⟨passed ++ before, name, rest, (List.append_assoc ..).symm, rfl, inside, stops, rfl⟩
    -- Left as it is, the name would be computed to see whether it is empty.
    generalize trim (String.ofList name) = trimmed at named
    refine ⟨_, name ++ rest, ?_, place.position, SyntaxFault.fits_ofName named⟩
    rw [place.rest, ahead]

/-! ## Reports -/

/-- What a message says is true of the characters before and behind this place. -/
structure MessageFits (message : String) (before behind : List Char) : Prop where
  unexpected : ∀ c, message = "unexpected character '" ++ c.toString ++ "'" →
    behind.head? = some c
  unterminated : message = "unterminated string literal" →
    ∃ text, behind = '"' :: text ∧ '"' ∉ text
  ended : "found end of input".toList <:+ message.toList → behind = []
  missing : ∀ category : Category, message = "missing " ++ category.word ++ " name" →
    NameAhead category "" before behind
  unknown : ∀ (category : Category) (name : String),
    message = "unknown " ++ category.word ++ " name '" ++ name ++ "'" →
    NameAhead category name before behind

theorem SyntaxFault.Fits.message {fault : SyntaxFault} {before behind : List Char}
    (fits : fault.Fits before behind) : MessageFits fault.message before behind := by
  refine ⟨fun c same => ?_, fun same => ?_, fun ends => ?_, fun category same => ?_,
    fun category name same => ?_⟩
  · obtain rfl : fault = .lexical (.unexpectedCharacter c) :=
      SyntaxFault.eq_of_message_eq same fun _ _ => SyntaxFault.noConfusion
    exact fits
  · obtain rfl : fault = .lexical .unterminatedString :=
      SyntaxFault.eq_of_message_eq same fun _ _ => SyntaxFault.noConfusion
    exact fits
  · rcases SyntaxFault.endOfInput_suffix_iff.mp ends with ⟨expected, rfl⟩
    exact fits
  · obtain rfl : fault = .missingName category :=
      SyntaxFault.eq_of_message_eq same fun _ _ => SyntaxFault.noConfusion
    exact fits
  · obtain rfl : fault = .unknownName category name :=
      SyntaxFault.eq_of_message_eq same fun _ _ => SyntaxFault.noConfusion
    exact fits

/-- A report is true of a source that is cut at its place into these characters. -/
structure Truthful (source message : String) (offset line column : Nat) (excerpt : String)
    (before behind : List Char) : Prop where
  cut : splitAtByte? source.toList offset = some (before, behind)
  names : Names line column before
  isLine : (source.toList.splitOn '\n')[line - 1]? = some excerpt.toList
  unbroken : '\n' ∉ excerpt.toList
  column_le : column ≤ 1 + excerpt.toList.length
  /-- Neither number is greater than the number of characters and one. -/
  small : line ≤ source.toList.length + 1 ∧ column ≤ source.toList.length + 1
  message : MessageFits message before behind
  /-- Every slice of the source with which its line is looked up is one. -/
  front : slice? source 0 offset = some (String.ofList before)
  back : slice? source offset (byteLength source.toList) = some (String.ofList behind)
  between : slice? source (offset - byteLength (lastLine before))
    (offset + byteLength (behind.takeWhile (· ≠ '\n'))) = some excerpt

theorem truthful_toError {source : String} {error : SyntaxError} {before behind : List Char}
    (whole : source.toList = before ++ behind)
    (place : error.position = Position.start.after before)
    (fits : error.fault.Fits before behind) :
    Truthful source error.fault.message error.position.offset error.position.line
      error.position.column (SyntaxError.sourceLine source error.position) before behind := by
  have names := Position.names_after_start before
  have offset : error.position.offset = byteLength before := by
    rw [place, Position.offset_after]
    exact Nat.zero_add _
  have cut : splitAtByte? source.toList error.position.offset = some (before, behind) :=
    splitAtByte?_eq_some_iff.mpr ⟨whole, offset.symm⟩
  have excerpt : SyntaxError.sourceLine source error.position =
      String.ofList (lineAround before behind) := by
    simp only [SyntaxError.sourceLine, cut]
  rw [← place] at names
  rw [excerpt]
  have length : source.toList.length = before.length + behind.length := by
    rw [whole, List.length_append]
  refine ⟨cut, names, ?_, ?_, ?_, ?_, fits.message, ?_, ?_, ?_⟩
  · rw [whole, names.line, String.toList_ofList, Nat.add_sub_cancel_left]
    exact Text.getElem?_splitOn_count before behind
  · rw [String.toList_ofList]
    exact Text.lineFeed_not_mem_lineAround before behind
  · rw [names.column, String.toList_ofList, Text.lineAround_eq, List.length_append]
    omega
  · have few := names.le_length
    omega
  · exact slice?_eq_some_iff.mpr ⟨[], behind, by simp [whole], rfl, by simp [offset]⟩
  · exact slice?_eq_some_iff.mpr ⟨before, [], by simp [whole], offset.symm, by simp [whole]⟩
  · rw [offset]
    exact Text.slice?_lineAround whole

/-! ## Readings -/

namespace Parser

/-- The parser behind so many readings of a line. -/
def afterLines (parser : Parser) : Nat → Parser
  | 0 => parser
  | calls + 1 => (parser.afterLines calls).readLine.2

theorem readLine_passes (parser : Parser) :
    ∃ passed, parser.cursor.Passes passed parser.readLine.2.cursor :=
  (parseRest_traces parser.policy parser.cursor).passes

/-- A parser that is asked again has the same source and policy, and stands further on. -/
theorem afterLines_passes (parser : Parser) (calls : Nat) :
    (parser.afterLines calls).source = parser.source ∧
      (parser.afterLines calls).policy = parser.policy ∧
      ∃ passed, parser.cursor.Passes passed (parser.afterLines calls).cursor := by
  induction calls with
  | zero => exact ⟨rfl, rfl, [], .refl _⟩
  | succ calls inductionHypothesis =>
    rcases inductionHypothesis with ⟨source, policy, passed, passes⟩
    rcases (parser.afterLines calls).readLine_passes with ⟨more, next⟩
    exact ⟨source, policy, passed ++ more, passes.trans next⟩

/--
Whenever a parser fails, at the first line that it is asked for or at a later one, its error is one
of syntax and the report is true of the source.
-/
theorem readLine_error_truthful {policy : AnnotationPolicy} {source : String} {calls : Nat}
    {error : Error}
    (failed : ((ofText policy source).afterLines calls).readLine.1.result = .error error) :
    ∃ message line column excerpt,
      error = .ofKind (.parse message line column excerpt) ∧
      ∃ cause before behind,
        (parseRest policy ((ofText policy source).afterLines calls).cursor).result =
          .error cause ∧
        Truthful source message cause.position.offset line column excerpt before behind := by
  generalize reached : (ofText policy source).afterLines calls = parser at failed
  rcases (ofText policy source).afterLines_passes calls with
    ⟨sameSource, samePolicy, passed, passes⟩
  rw [reached] at sameSource samePolicy passes
  cases outcome : (parseRest parser.policy parser.cursor).result with
  | ok expression => simp [readLine, outcome, Except.mapError] at failed
  | error cause =>
    obtain rfl : cause.toError parser.source = error := by
      simpa [readLine, outcome, Except.mapError] using failed
    have stuck := (parseRest_traces parser.policy parser.cursor).stuck cause outcome
    rcases stuck.exists_place passes with ⟨before, behind, whole, place, fits⟩
    have truthful := truthful_toError whole place fits
    have policyEq : parser.policy = policy := samePolicy
    rw [sameSource]
    exact ⟨_, _, _, _, rfl, cause, before, behind, policyEq ▸ outcome, truthful⟩

/-- A parser that is asked again before a character that begins nothing. -/
theorem readLine_error_truthful_at_foreign_character :
    let source := "\"ş\n\" €"
    let message := "unexpected character '€'"
    ((ofText .strict source).afterLines 1).readLine.1.result =
        .error (.ofKind (.parse message 2 3 "\" €")) ∧
      ∃ offset before rest, Truthful source message offset 2 3 "\" €" before ('€' :: rest) := by
  intro source message
  have failed : ((ofText .strict source).afterLines 1).readLine.1.result =
      .error (.ofKind (.parse message 2 3 "\" €")) := by
    decide +kernel
  rcases readLine_error_truthful failed with
    ⟨_, line, column, excerpt, same, cause, before, behind, -, truthful⟩
  obtain ⟨rfl, rfl, rfl, rfl⟩ : message = _ ∧ _ = line ∧ _ = column ∧ _ = excerpt := by
    simpa [Error.ofKind] using same
  have named : message = "unexpected character '" ++ '€'.toString ++ "'" := by
    decide
  obtain ⟨rest, rfl⟩ := List.head?_eq_some_iff.mp (truthful.message.unexpected '€' named)
  exact ⟨failed, _, before, rest, truthful⟩

end Parser

end Concord.Parsing
