import Concord.Proofs.Source.Requests

/-!
# Strings in mixed readings

A string begins at the first quote ahead, whatever stands in front of this quote.  So a cursor that
is moved over characters without a quote keeps the strings ahead of it, as they are and where they
are.  The text of an annotation has no quote, and neither has any token but a string.  The main
statement says of a mixed reading that its strings are those of the text, in order, as far as it
goes.
-/

namespace Concord.Source

open Text (decide_ne_of_not_mem isBlank)

/-- A string, closed or not. -/
def TokenKind.isString : TokenKind → Bool
  | quoted _ => true
  | fault .unterminatedString => true
  | _ => false

/-- The string that a reply is, closed or not. -/
def Reply.string? : Reply → Option Token
  | .token read => if read.kind.isString then some read else none
  | .rawText .. => none

/-- A string begins with a quote, and no other token has one. -/
theorem Spelled.quote_cases {kind : TokenKind} {covered : List Char}
    (spelled : Spelled kind covered) :
    (kind.isString = true ∧ covered.head? = some '"') ∨
      (kind.isString = false ∧ '"' ∉ covered) := by
  cases spelled with
  | identifier nonempty letter => exact .inr ⟨rfl, quote_not_mem_of_letters letter⟩
  | quoted unquoted => exact .inl ⟨rfl, rfl⟩
  | unterminated unquoted => exact .inl ⟨rfl, rfl⟩
  | unexpected foreign =>
    refine .inr ⟨rfl, fun member => ?_⟩
    obtain rfl := List.mem_singleton.mp member
    exact foreign.notDelimiter (by decide)
  | _ => exact .inr ⟨rfl, by decide⟩

namespace Cursor

variable {cursor next : Cursor} {passed : List Char}

/-- The strings ahead. -/
def strings (cursor : Cursor) : List Token :=
  cursor.tokens.filter (·.kind.isString)

/-- The cursor behind the replies to requests. -/
def afterAll (cursor : Cursor) : List Request → Cursor
  | [] => cursor
  | request :: requests => (cursor.answer request).2.afterAll requests

/-! ## Moving without a quote -/

theorem dropWhile_of_passes {test : Char → Bool} (passes : cursor.Passes passed next)
    (skipped : ∀ c ∈ passed, test c = true) : cursor.dropWhile test = next.dropWhile test := by
  rw [dropWhile, takeWhile, passes.rest, List.dropWhile_append_of_pos skipped,
    List.takeWhile_append_of_pos skipped, Position.after_append, ← passes.position]
  rfl

/-- A cursor at a character that fails the test stays there. -/
theorem dropWhile_of_stops {test : Char → Bool} {c : Char} (ahead : cursor.rest.head? = some c)
    (fails : test c = false) : cursor.dropWhile test = cursor := by
  rcases cursor with ⟨rest, position⟩
  cases rest with
  | nil => cases ahead
  | cons first rest =>
    obtain rfl := Option.some.inj ahead
    simp [dropWhile, takeWhile, fails]

theorem strings_of_ended (ended : cursor.rest = []) : cursor.strings = [] := by
  have kind : cursor.peek.kind = .endOfInput := by rw [peek, nextToken_of_ended ended]
  rw [strings, tokens_of_endOfInput kind, List.filter_singleton, kind]
  rfl

/-- The strings ahead are the next token, if it is one, and the strings behind it. -/
theorem strings_eq (cursor : Cursor) :
    cursor.strings =
      (Reply.string? (.token cursor.peek)).toList ++ cursor.nextToken.2.strings := by
  by_cases ended : cursor.peek.kind = .endOfInput
  · rw [strings_of_ended (nextToken_of_kind ended).1, strings, tokens_of_endOfInput ended]
    simp [Reply.string?, ended, TokenKind.isString]
  · rw [strings, tokens_of_more ended, List.filter_cons]
    cases string : cursor.peek.kind.isString <;> simp [Reply.string?, string, strings]

theorem strings_congr (same : cursor.nextToken = next.nextToken) :
    cursor.strings = next.strings := by
  rw [strings_eq, next.strings_eq, peek, peek, same]

/-- The strings ahead begin at the first quote. -/
theorem strings_dropWhile (cursor : Cursor) :
    (cursor.dropWhile (· ≠ '"')).strings = cursor.strings := by
  -- The induction follows the tokens: those in front of the first quote are no strings.
  induction length : cursor.rest.length using Nat.strong_induction_on generalizing cursor with
  | _ length inductionHypothesis =>
    rcases cursor.passes_token with ⟨blanks, covered, blank, lexeme, skipped, passes⟩
    have noQuote := quote_not_mem_of_blanks blank
    rcases lexeme.spelled.1.quote_cases with ⟨string, first⟩ | ⟨other, without⟩
    · -- Only blanks are in front of the first quote, so the next token is the same behind them.
      have start : (cursor.dropWhile isBlank).rest.head? = some '"' := by
        rw [passes.rest, List.head?_append, first]
        rfl
      rw [dropWhile_of_passes skipped (decide_ne_of_not_mem noQuote),
        dropWhile_of_stops start (by decide)]
      apply strings_congr
      simp only [nextToken, ← dropWhile_of_passes skipped blank]
    · have moved : '"' ∉ blanks ++ covered := by
        simp [noQuote, without]
      rw [dropWhile_of_passes (skipped.trans passes) (decide_ne_of_not_mem moved),
        cursor.strings_eq]
      simp only [Reply.string?, other, Bool.false_eq_true, if_false, Option.toList_none,
        List.nil_append]
      by_cases ended : cursor.peek.kind = .endOfInput
      · rw [dropWhile, takeWhile_of_ended (nextToken_of_kind ended).1]
      · exact inductionHypothesis _ (length ▸ cursor.length_nextToken_lt ended) _ rfl

/-- Moving over characters without a quote leaves the strings ahead as they are. -/
theorem strings_eq_of_passes (passes : cursor.Passes passed next) (without : '"' ∉ passed) :
    cursor.strings = next.strings := by
  have skipped := decide_ne_of_not_mem without
  rw [← cursor.strings_dropWhile, dropWhile_of_passes passes skipped, strings_dropWhile]

/-! ## Mixed readings -/

/-- A reply takes a string from those ahead, or leaves them. -/
theorem strings_answer (cursor : Cursor) (request : Request) :
    cursor.strings =
      (cursor.answer request).1.string?.toList ++ (cursor.answer request).2.strings := by
  cases request with
  | token => exact cursor.strings_eq
  | rawText close =>
    rcases cursor.annotationText_spec close with ⟨text, -, ahead, inside, -⟩
    exact strings_eq_of_passes (passes_annotationText ahead) fun member => (inside _ member).2.1 rfl

/-- The strings ahead are those among the replies, and those still ahead. -/
theorem strings_replies (cursor : Cursor) (requests : List Request) :
    cursor.strings =
      (cursor.replies requests).filterMap Reply.string? ++ (cursor.afterAll requests).strings := by
  induction requests generalizing cursor with
  | nil => rfl
  | cons request requests inductionHypothesis =>
    rw [strings_answer cursor request, inductionHypothesis, replies, afterAll,
      List.filterMap_cons]
    cases (cursor.answer request).1.string? <;> rfl

theorem afterAll_of_ended (ended : cursor.rest = []) (requests : List Request) :
    cursor.afterAll requests = cursor := by
  induction requests with
  | nil => rfl
  | cons request requests inductionHypothesis =>
    rw [afterAll, answer_of_ended ended, inductionHypothesis]

/-- Once the end of the input is a reply, nothing is ahead. -/
theorem rest_afterAll {requests : List Request} {token : Token}
    (member : .token token ∈ cursor.replies requests) (kind : token.kind = .endOfInput) :
    (cursor.afterAll requests).rest = [] := by
  induction requests generalizing cursor with
  | nil => cases member
  | cons request requests inductionHypothesis =>
    rcases List.mem_cons.mp member with first | later
    · cases request with
      | token =>
        obtain rfl := Reply.token.inj first
        have ended : (cursor.answer .token).2.rest = [] := (nextToken_of_kind kind).1
        rw [afterAll, afterAll_of_ended ended, ended]
      | rawText close => cases first
    · exact inductionHypothesis later

end Cursor

end Concord.Source
