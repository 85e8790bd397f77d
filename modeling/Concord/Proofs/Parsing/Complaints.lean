import Concord.Proofs.Parsing.Progress
import Concord.Proofs.Text.Plain

/-!
# What syntax errors repeat

The message of a syntax error may repeat characters of the line: a character that begins no token,
or the name of an annotation that a strict reader does not know.  Both are taken from the line, and
neither holds a line feed, for a line feed is a blank and ends the text of an annotation.  All else
in a message is plain.
-/

namespace Concord.Parsing

open Source (Cursor Foreign Inside Lexeme TokenKind)
open Text (Plain isBlank mem_append_plain_iff mem_plain_append_iff plain_append trim)

namespace SyntaxFault

/-- The characters of the line that the message of a fault repeats. -/
def repeated : SyntaxFault → List Char
  | lexical (.unexpectedCharacter c) => [c]
  | unknownName _ name => name.toList
  | _ => []

theorem plain_description (expectation : Expectation) : Plain expectation.description := by
  rcases expectation with _ | _ | _ | category
  any_goals decide
  cases category <;> decide

theorem plain_name (kind : TokenKind) : Plain kind.name := by
  cases kind <;> simp only [TokenKind.name] <;> decide

theorem plain_word (category : Category) : Plain category.word := by
  cases category <;> decide

/-- The controls in a message are those of the characters that it repeats. -/
theorem mem_message_iff (fault : SyntaxFault) {c : Char} (control : c.toNat < 0x20) :
    c ∈ fault.message.toList ↔ c ∈ fault.repeated := by
  have quote : Plain "'" := by decide
  rcases fault with ⟨⟨found⟩ | _⟩ | ⟨expected, found⟩ | category | ⟨category, name⟩
  · have opening : Plain "unexpected character '" := by decide
    have single : found.toString.toList = [found] := by
      simp [Char.toString]
    change c ∈ ("unexpected character '" ++ found.toString ++ "'").toList ↔ c ∈ [found]
    rw [mem_append_plain_iff quote control, mem_plain_append_iff opening control, single]
  · have whole : Plain (message (.lexical .unterminatedString)) := by decide
    simp only [whole.not_mem control, repeated, List.not_mem_nil]
  · have whole : Plain (message (.unexpected expected found)) := by
      simp only [message, plain_append]
      exact ⟨⟨⟨by decide, plain_description expected⟩, by decide⟩, plain_name found⟩
    simp only [whole.not_mem control, repeated, List.not_mem_nil]
  · have whole : Plain (message (.missingName category)) := by
      simp only [message, plain_append]
      exact ⟨⟨by decide, plain_word category⟩, by decide⟩
    simp only [whole.not_mem control, repeated, List.not_mem_nil]
  · have opening : Plain ("unknown " ++ category.word ++ " name '") := by
      simp only [plain_append]
      exact ⟨⟨by decide, plain_word category⟩, by decide⟩
    rw [message, mem_append_plain_iff quote control, mem_plain_append_iff opening control,
      repeated]

/-- What a fault repeats has been read among these characters. -/
def Grounded (policy : AnnotationPolicy) (characters : List Char) : SyntaxFault → Prop
  | lexical (.unexpectedCharacter c) => c ∈ characters ∧ Foreign c
  | unknownName category name =>
    policy = .strict ∧ ∃ text, name = trim (String.ofList text) ∧ text ⊆ characters ∧
      ∀ c ∈ text, Inside category.closing c
  | _ => True

variable {policy : AnnotationPolicy} {characters : List Char} {fault : SyntaxFault}

theorem Grounded.mono {more : List Char} (grounded : fault.Grounded policy characters)
    (part : characters ⊆ more) : fault.Grounded policy more := by
  rcases fault with ⟨⟨found⟩ | _⟩ | ⟨expected, found⟩ | category | ⟨category, name⟩
  · exact ⟨part grounded.1, grounded.2⟩
  · trivial
  · trivial
  · trivial
  · rcases grounded with ⟨strict, text, trimmed, among, inside⟩
    exact ⟨strict, text, trimmed, fun _ member => part (among member), inside⟩

/-- A fault repeats characters of the line, and no line feed. -/
theorem Grounded.mem_of_mem_repeated (grounded : fault.Grounded policy characters) {c : Char}
    (member : c ∈ fault.repeated) : c ∈ characters ∧ c ≠ '\n' := by
  rcases fault with ⟨⟨found⟩ | _⟩ | ⟨expected, found⟩ | category | ⟨category, name⟩
  · obtain rfl := List.mem_singleton.mp member
    refine ⟨grounded.1, ?_⟩
    rintro rfl
    exact absurd grounded.2.notBlank (by decide)
  · cases member
  · cases member
  · cases member
  · rcases grounded with ⟨-, text, rfl, among, inside⟩
    have stands : c ∈ text := by simpa using Text.mem_of_mem_trim member
    exact ⟨among stands, (inside c stands).2.2⟩

/-- A token that stands where something else is expected makes a grounded fault. -/
theorem grounded_ofToken {kind : TokenKind} {covered rest : List Char}
    (lexeme : Lexeme kind covered rest) (policy : AnnotationPolicy) (expected : Expectation) :
    (ofToken expected kind).Grounded policy covered := by
  cases lexeme with
  | unexpected foreign => exact ⟨List.mem_singleton.mpr rfl, foreign⟩
  | _ => trivial

/-- The name of an annotation that a strict reader does not know makes a grounded fault. -/
theorem grounded_ofName {category : Category} {name : String} {text : List Char}
    (inside : ∀ c ∈ text, Inside category.closing c) (trimmed : name = trim (String.ofList text)) :
    (ofName category name).Grounded .strict text := by
  unfold ofName
  split
  · trivial
  · exact ⟨rfl, text, trimmed, List.Subset.refl text, inside⟩

end SyntaxFault

/-! ## Readers -/

/-- The fault with which a reader is stuck is grounded in what was ahead of it. -/
theorem Stuck.grounded {policy : AnnotationPolicy} {origin : Cursor} {error : SyntaxError}
    (stuck : Stuck policy origin error) : error.fault.Grounded policy origin.rest := by
  cases stuck with
  | @token before cursor _ _ covered rest expected reaches lexeme ahead refuses =>
    apply (SyntaxFault.grounded_ofToken lexeme policy expected).mono
    rw [reaches.passes.rest, ahead]
    exact List.Subset.trans (List.subset_append_left covered rest) (List.subset_append_right _ _)
  | @name before cursor category _ text rest strict reaches ahead inside stops =>
    subst strict
    -- Left as it is, the name would be computed to see whether it is empty.
    generalize trimmed : trim (String.ofList text) = name
    apply (SyntaxFault.grounded_ofName inside trimmed.symm).mono
    rw [reaches.passes.rest, ahead]
    exact List.Subset.trans (List.subset_append_left text rest) (List.subset_append_right _ _)

theorem grounded_of_parseRest_error {policy : AnnotationPolicy} {cursor : Cursor}
    {error : SyntaxError} (failed : (parseRest policy cursor).result = .error error) :
    error.fault.Grounded policy cursor.rest :=
  ((parseRest_traces policy cursor).stuck error failed).grounded

/-- The error of a line is the one with which its reader has failed. -/
theorem parseLine_of_parseRest_error {policy : AnnotationPolicy} {source : String}
    {error : SyntaxError}
    (failed : (parseRest policy (Cursor.ofText source)).result = .error error) :
    parseLine policy source = .error (error.toError source) := by
  simp [parseLine, readLine, Parser.readLine, Parser.ofText, failed, Except.mapError]

end Concord.Parsing
