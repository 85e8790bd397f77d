import Mathlib.Data.List.Chain
import Concord.Proofs.Source.Passage

/-!
# The tokens of a text

Tokens cut a text into stretches.  What makes a list of tokens such a cut is said of the list as a
whole: what each token covers, that the tokens follow each other, that only blanks lie outside of
them, and that no word is cut in two.  The main statement is that the tokens that are read are a cut
of the text, and that there is no other.

Between the two stands a reading from left to right, which finds one token after the other.
-/

namespace Concord.Source

open Text (Blanks byteLength isBlank)
open Unicode (isAlphabetic)

/-! ## Cuts of a text -/

/-- The characters that a token of each kind covers. -/
inductive Spelled : TokenKind → List Char → Prop
  | identifier (nonempty : letters ≠ []) (letter : ∀ c ∈ letters, isAlphabetic c = true) :
    Spelled (.identifier (String.ofList letters)) letters
  | quoted (unquoted : '"' ∉ text) :
    Spelled (.quoted (String.ofList text)) ('"' :: (text ++ ['"']))
  | openBracket : Spelled .openBracket ['[']
  | closeBracket : Spelled .closeBracket [']']
  | openAngle : Spelled .openAngle ['<']
  | closeAngle : Spelled .closeAngle ['>']
  | unexpected (foreign : Foreign c) : Spelled (.fault (.unexpectedCharacter c)) [c]
  | unterminated (unquoted : '"' ∉ text) : Spelled (.fault .unterminatedString) ('"' :: text)
  | endOfInput : Spelled .endOfInput []

/-- A kind of token with which a text is at its end. -/
def TokenKind.IsLast (kind : TokenKind) : Prop :=
  kind = .fault .unterminatedString ∨ kind = .endOfInput

/-- A span lies between two parts of a text that begins at the offset, and covers what is there. -/
structure Span.Covers (span : Span) (offset : Nat) (front covered : List Char) : Prop where
  start : span.start.offset = offset + byteLength front
  stop : span.stop = offset + byteLength (front ++ covered)

/-- The tokens are a cut of a text that begins at the offset. -/
structure Cut (offset : Nat) (characters : List Char) (tokens : List Token) : Prop where
  /-- Every token covers a stretch of the text, which is spelled as its kind asks for. -/
  covers : ∀ token ∈ tokens, ∃ front covered behind,
    characters = front ++ (covered ++ behind) ∧ token.span.Covers offset front covered ∧
      Spelled token.kind covered ∧ (token.kind.IsLast → behind = [])
  /-- No token begins before an earlier one stops. -/
  ordered : tokens.Pairwise fun token later => token.span.stop ≤ later.span.start.offset
  /-- A character that no token covers is a blank. -/
  complete : ∀ front c behind, characters = front ++ c :: behind → isBlank c = true ∨
    ∃ token ∈ tokens, token.span.start.offset ≤ offset + byteLength front ∧
      offset + byteLength front < token.span.stop
  /-- A word does not go on where it stops. -/
  maximal : tokens.IsChain fun token next =>
    ∀ name other, token.kind = .identifier name → next.kind = .identifier other →
      token.span.stop ≠ next.span.start.offset
  /-- The end of the input is the last token, and no other. -/
  ended : ∃ others last, tokens = others ++ [last] ∧ last.kind = .endOfInput ∧
    ∀ token ∈ others, token.kind ≠ .endOfInput

/-- What a token is, and the bytes from which and up to which it reaches. -/
def Token.stretch (token : Token) : TokenKind × Nat × Nat :=
  (token.kind, token.span.start.offset, token.span.stop)

/-! ## Reading from left to right -/

/-- The tokens that are found one after the other in a text that begins at the offset. -/
inductive TokensAhead : Nat → List Char → List Token → Prop
  | ended {token : Token} {offset : Nat} {blanks : List Char}
    (blank : Blanks blanks)
    (kind : token.kind = .endOfInput)
    (spans : token.span.Covers offset blanks []) :
    TokensAhead offset blanks [token]
  | next {token : Token} {tokens : List Token} {offset : Nat} {blanks covered rest : List Char}
    (blank : Blanks blanks)
    (lexeme : Lexeme token.kind covered rest)
    (more : token.kind ≠ .endOfInput)
    (spans : token.span.Covers offset blanks covered)
    (others : TokensAhead token.span.stop rest tokens) :
    TokensAhead offset (blanks ++ (covered ++ rest)) (token :: tokens)

theorem Lexeme.spelled {kind : TokenKind} {covered rest : List Char}
    (lexeme : Lexeme kind covered rest) :
    Spelled kind covered ∧ (kind.IsLast → rest = []) := by
  cases lexeme with
  | openBracket => exact ⟨.openBracket, by simp [TokenKind.IsLast]⟩
  | closeBracket => exact ⟨.closeBracket, by simp [TokenKind.IsLast]⟩
  | openAngle => exact ⟨.openAngle, by simp [TokenKind.IsLast]⟩
  | closeAngle => exact ⟨.closeAngle, by simp [TokenKind.IsLast]⟩
  | quoted unquoted => exact ⟨.quoted unquoted, by simp [TokenKind.IsLast]⟩
  | unterminated unquoted => exact ⟨.unterminated unquoted, fun _ => rfl⟩
  | @identifier c others _ letter letters ends =>
    refine ⟨.identifier (by simp) ?_, by simp [TokenKind.IsLast]⟩
    exact List.forall_mem_cons.mpr ⟨letter, letters⟩
  | unexpected foreign => exact ⟨.unexpected foreign, by simp [TokenKind.IsLast]⟩
  | endOfInput => exact ⟨.endOfInput, fun _ => rfl⟩

theorem Spelled.lexeme {kind : TokenKind} {covered rest : List Char}
    (spelled : Spelled kind covered) (last : kind.IsLast → rest = [])
    (ends : ∀ name, kind = .identifier name → ∀ c ∈ rest.head?, isAlphabetic c = false) :
    Lexeme kind covered rest := by
  cases spelled with
  | @identifier letters nonempty letter =>
    rcases List.exists_cons_of_ne_nil nonempty with ⟨c, others, rfl⟩
    rcases List.forall_mem_cons.mp letter with ⟨first, letters⟩
    exact .identifier first letters (ends _ rfl)
  | quoted unquoted => exact .quoted unquoted
  | openBracket => exact .openBracket
  | closeBracket => exact .closeBracket
  | openAngle => exact .openAngle
  | closeAngle => exact .closeAngle
  | unexpected foreign => exact .unexpected foreign
  | unterminated unquoted =>
    obtain rfl := last (.inl rfl)
    exact .unterminated unquoted
  | endOfInput =>
    obtain rfl := last (.inr rfl)
    exact .endOfInput

theorem Spelled.ne_nil {kind : TokenKind} {covered : List Char} (spelled : Spelled kind covered)
    (more : kind ≠ .endOfInput) : covered ≠ [] := by
  cases spelled with
  | identifier nonempty => exact nonempty
  | endOfInput => exact absurd rfl more
  | _ => simp

theorem Spelled.eq_nil {covered : List Char} (spelled : Spelled .endOfInput covered) :
    covered = [] := by
  cases spelled with
  | endOfInput => rfl

/-- Only a word begins with a letter. -/
theorem Spelled.identifier_of_letter {kind : TokenKind} {c : Char} {others : List Char}
    (spelled : Spelled kind (c :: others)) (letter : isAlphabetic c = true) :
    ∃ name, kind = .identifier name := by
  have other := notDelimiter_of_isAlphabetic letter
  cases spelled with
  | identifier => exact ⟨_, rfl⟩
  | unexpected foreign => exact absurd letter (by simp [foreign.notLetter])
  | _ => simp at other

theorem Spelled.exists_letter {name : String} {covered : List Char}
    (spelled : Spelled (.identifier name) covered) :
    ∃ c others, covered = c :: others ∧ isAlphabetic c = true := by
  cases spelled with
  | identifier nonempty letter =>
    rcases List.exists_cons_of_ne_nil nonempty with ⟨c, others, rfl⟩
    exact ⟨c, others, rfl, letter c List.mem_cons_self⟩

/-! ## The one reading -/

/-- Blanks and the token behind them are told apart in one way. -/
theorem Lexeme.split_unique {kind : TokenKind} {blanks covered rest others otherCovered : List Char}
    (lexeme : Lexeme kind covered rest) (otherLexeme : Lexeme kind otherCovered rest)
    (blank : Blanks blanks) (otherBlank : Blanks others)
    (same : blanks ++ (covered ++ rest) = others ++ (otherCovered ++ rest)) :
    blanks = others ∧ covered = otherCovered := by
  have first := Text.split_iff.mpr ⟨rfl, blank, Cursor.notBlank_of_lexeme lexeme⟩
  have second := Text.split_iff.mpr ⟨same, otherBlank, Cursor.notBlank_of_lexeme otherLexeme⟩
  exact ⟨first.1.symm.trans second.1, List.append_cancel_right (first.2.symm.trans second.2)⟩

namespace TokensAhead

variable {offset : Nat} {characters : List Char} {tokens others : List Token}

/-- There is only one reading. -/
theorem unique (first : TokensAhead offset characters tokens)
    (second : TokensAhead offset characters others) :
    tokens.map Token.stretch = others.map Token.stretch := by
  induction first generalizing others with
  | @ended token offset blanks blank kind spans =>
    have ahead : TokenAhead blanks .endOfInput [] := tokenAhead_endOfInput_iff.mpr ⟨blank, rfl⟩
    generalize same : blanks = characters at second
    cases second with
    | ended _ otherKind otherSpans =>
      subst same
      simp [Token.stretch, kind, otherKind, spans.start, spans.stop, otherSpans.start,
        otherSpans.stop]
    | next otherBlank lexeme more _ _ =>
      have found := TokenAhead.unique ahead ⟨_, _, otherBlank, lexeme, same⟩
      exact absurd found.1.symm more
  | @next token tokens offset blanks covered rest blank lexeme more spans _ inductionHypothesis =>
    have ahead : TokenAhead (blanks ++ (covered ++ rest)) token.kind rest :=
      ⟨blanks, covered, blank, lexeme, rfl⟩
    generalize same : blanks ++ (covered ++ rest) = characters at second ahead
    cases second with
    | ended otherBlank _ _ =>
      have found := ahead.unique (tokenAhead_endOfInput_iff.mpr ⟨otherBlank, rfl⟩)
      exact absurd found.1 more
    | @next other _ _ _ _ _ otherBlank otherLexeme _ otherSpans behind =>
      rcases ahead.unique ⟨_, _, otherBlank, otherLexeme, rfl⟩ with ⟨kind, rfl⟩
      rw [← kind] at otherLexeme
      rcases lexeme.split_unique otherLexeme blank otherBlank same with ⟨rfl, rfl⟩
      have stop : other.span.stop = token.span.stop := otherSpans.stop.trans spans.stop.symm
      rw [stop] at behind
      rw [List.map_cons, List.map_cons, inductionHypothesis behind]
      simp [Token.stretch, kind, stop, spans.start, otherSpans.start]

/-- Every token but the last covers a character. -/
theorem length_le (ahead : TokensAhead offset characters tokens) :
    tokens.length ≤ characters.length + 1 := by
  induction ahead with
  | ended => simp
  | next blank lexeme more spans others inductionHypothesis =>
    have covers := List.length_pos_iff.mpr (lexeme.spelled.1.ne_nil more)
    simp only [List.length_cons, List.length_append]
    omega

end TokensAhead

/-! ## Quotes -/

theorem quote_not_mem_of_blanks {blanks : List Char} (blank : Blanks blanks) : '"' ∉ blanks :=
  fun member => absurd (blank _ member) (by decide)

theorem quote_not_mem_of_letters {letters : List Char}
    (letter : ∀ c ∈ letters, isAlphabetic c = true) : '"' ∉ letters :=
  fun member => notDelimiter_of_isAlphabetic (letter _ member) (by decide)

theorem count_quote_of_blanks {blanks : List Char} (blank : Blanks blanks) :
    blanks.count '"' = 0 :=
  List.count_eq_zero.mpr (quote_not_mem_of_blanks blank)

/-- A closed string has two quotes, an open one has one, and no other token has any. -/
theorem Spelled.count_quote {kind : TokenKind} {covered : List Char}
    (spelled : Spelled kind covered) :
    covered.count '"' % 2 = if kind = .fault .unterminatedString then 1 else 0 := by
  cases spelled with
  | identifier nonempty letter =>
    simp [List.count_eq_zero.mpr (quote_not_mem_of_letters letter)]
  | quoted unquoted => simp [List.count_eq_zero.mpr unquoted]
  | unexpected foreign =>
    have other := foreign.notDelimiter
    simp only [List.mem_cons, List.not_mem_nil, or_false, not_or] at other
    simp [other]
  | unterminated unquoted => simp [List.count_eq_zero.mpr unquoted]
  | _ => rfl

/-- Strings take the quotes of a text in pairs, and one that is left over begins an open string. -/
theorem TokensAhead.unterminated_iff {offset : Nat} {characters : List Char} {tokens : List Token}
    (ahead : TokensAhead offset characters tokens) :
    (∃ token ∈ tokens, token.kind = .fault .unterminatedString) ↔
      characters.count '"' % 2 = 1 := by
  induction ahead with
  | ended blank kind spans => simp [kind, count_quote_of_blanks blank]
  | @next token tokens offset blanks covered rest blank lexeme more spans others
      inductionHypothesis =>
    have quotes := lexeme.spelled.1.count_quote
    rw [List.count_append, List.count_append, count_quote_of_blanks blank, List.exists_mem_cons_iff,
      inductionHypothesis]
    by_cases unterminated : token.kind = .fault .unterminatedString
    · obtain rfl := lexeme.spelled.2 (.inl unterminated)
      simpa [unterminated] using quotes
    · rw [if_neg unterminated] at quotes
      simp only [unterminated, false_or]
      omega

/-! ## A reading is a cut -/

section Cuts

variable {offset : Nat} {characters : List Char} {tokens : List Token} {token : Token}

/-- What is covered in the rest of a text is covered in the text. -/
theorem Span.Covers.shift {span : Span} {front covered passed : List Char} {stop : Nat}
    (covers : span.Covers stop front covered) (reached : stop = offset + byteLength passed) :
    span.Covers offset (passed ++ front) covered := by
  refine ⟨?_, ?_⟩
  · rw [covers.start, reached, Text.byteLength_append, Nat.add_assoc]
  · rw [covers.stop, reached, List.append_assoc, Text.byteLength_append passed, Nat.add_assoc]

theorem Cut.ended_only {blanks : List Char} (blank : Blanks blanks)
    (kind : token.kind = .endOfInput) (spans : token.span.Covers offset blanks []) :
    Cut offset blanks [token] where
  covers := by
    intro other member
    obtain rfl := List.mem_singleton.mp member
    exact ⟨blanks, [], [], by simp, spans, kind ▸ .endOfInput, fun _ => rfl⟩
  ordered := List.pairwise_singleton _ _
  complete := by
    rintro front c behind rfl
    exact .inl (blank c (by simp))
  maximal := List.isChain_singleton _
  ended := ⟨[], token, rfl, kind, by simp⟩

theorem Cut.cons {blanks covered rest : List Char} (blank : Blanks blanks)
    (lexeme : Lexeme token.kind covered rest) (more : token.kind ≠ .endOfInput)
    (spans : token.span.Covers offset blanks covered) (cut : Cut token.span.stop rest tokens) :
    Cut offset (blanks ++ (covered ++ rest)) (token :: tokens) where
  covers := by
    refine List.forall_mem_cons.mpr ⟨?_, fun other member => ?_⟩
    · exact ⟨blanks, covered, rest, rfl, spans, lexeme.spelled⟩
    · rcases cut.covers other member with ⟨front, otherCovered, behind, rfl, covers, spelled⟩
      exact ⟨blanks ++ covered ++ front, otherCovered, behind, by simp, covers.shift spans.stop,
        spelled⟩
  ordered := by
    refine List.pairwise_cons.mpr ⟨fun other member => ?_, cut.ordered⟩
    rcases cut.covers other member with ⟨front, _, _, _, covers, _⟩
    rw [covers.start]
    exact Nat.le_add_right _ _
  complete := by
    intro front c behind same
    rcases Nat.lt_or_ge (byteLength front) (byteLength blanks) with early | late
    · rcases Text.exists_append_of_byteLength_le same.symm early.le with ⟨between, rfl, ahead⟩
      cases between with
      | nil => simp at early
      | cons first others =>
        obtain rfl : c = first := (List.cons.inj ahead).1
        exact .inl (blank c (by simp))
    · rcases Nat.lt_or_ge (byteLength front) (byteLength (blanks ++ covered)) with within | beyond
      · refine .inr ⟨token, List.mem_cons_self, ?_, ?_⟩
        · rw [spans.start]
          omega
        · rw [spans.stop]
          omega
      · rw [← List.append_assoc] at same
        rcases Text.exists_append_of_byteLength_le same beyond with ⟨between, rfl, ahead⟩
        refine (cut.complete between c behind ahead).imp_right ?_
        rintro ⟨other, member, starts, stops⟩
        rw [spans.stop, Nat.add_assoc, ← Text.byteLength_append] at starts stops
        exact ⟨other, List.mem_cons_of_mem _ member, starts, stops⟩
  maximal := by
    refine List.isChain_cons.mpr ⟨fun next first name other kind nextKind adjacent => ?_,
      cut.maximal⟩
    rcases cut.covers next (List.mem_of_mem_head? first) with
      ⟨front, otherCovered, behind, rfl, covers, spelled, -⟩
    rw [nextKind] at spelled
    rw [kind] at lexeme
    rcases spelled.exists_letter with ⟨c, letters, rfl, letter⟩
    have nothing : front = [] := by
      by_contra something
      have positive := Text.byteLength_pos something
      rw [covers.start] at adjacent
      omega
    have ends := lexeme.ends c (by simp [nothing])
    exact absurd letter (by simp [ends])
  ended := by
    rcases cut.ended with ⟨others, last, rfl, kind, notLast⟩
    exact ⟨token :: others, last, rfl, kind, List.forall_mem_cons.mpr ⟨more, notLast⟩⟩

theorem TokensAhead.cut (ahead : TokensAhead offset characters tokens) :
    Cut offset characters tokens := by
  induction ahead with
  | ended blank kind spans => exact .ended_only blank kind spans
  | next blank lexeme more spans others inductionHypothesis =>
    exact .cons blank lexeme more spans inductionHypothesis

/-! ## A cut is a reading -/

namespace Cut

/-- Only blanks stand before the first token. -/
theorem blanks_front {front rest : List Char} (cut : Cut offset (front ++ rest) (token :: tokens))
    (starts : token.span.start.offset = offset + byteLength front) : Blanks front := by
  intro c member
  rcases List.append_of_mem member with ⟨before, behind, rfl⟩
  rcases cut.complete before c (behind ++ rest) (by simp) with blank | ⟨other, among, begins, -⟩
  · exact blank
  · have size := c.utf8Size_pos
    have first : token.span.start.offset ≤ other.span.start.offset := by
      rcases List.mem_cons.mp among with rfl | later
      · exact Nat.le_refl _
      · rcases cut.covers token List.mem_cons_self with ⟨_, _, _, _, spans, _⟩
        have forwards : token.span.start.offset ≤ token.span.stop := by
          rw [spans.start, spans.stop, Text.byteLength_append]
          omega
        exact Nat.le_trans forwards (List.rel_of_pairwise_cons cut.ordered later)
    rw [starts, Text.byteLength_append, Text.byteLength_cons] at first
    omega

/-- Behind its first token, a cut of a text is a cut of the rest. -/
theorem tail {front covered rest : List Char}
    (cut : Cut offset (front ++ (covered ++ rest)) (token :: tokens))
    (spans : token.span.Covers offset front covered) (more : token.kind ≠ .endOfInput) :
    Cut token.span.stop rest tokens where
  covers := by
    intro other member
    rcases cut.covers other (List.mem_cons_of_mem _ member) with
      ⟨before, inner, behind, same, covers, spelled⟩
    have later := List.rel_of_pairwise_cons cut.ordered member
    rw [spans.stop, covers.start] at later
    rw [← List.append_assoc] at same
    rcases Text.exists_append_of_byteLength_le same (by omega) with ⟨between, rfl, ahead⟩
    refine ⟨between, inner, behind, ahead, ⟨?_, ?_⟩, spelled⟩
    · rw [covers.start, spans.stop, Text.byteLength_append _ between, Nat.add_assoc]
    · rw [covers.stop, spans.stop, List.append_assoc, Text.byteLength_append _ (between ++ inner),
        Nat.add_assoc]
  ordered := (List.pairwise_cons.mp cut.ordered).2
  complete := by
    intro before c behind ahead
    rcases cut.complete (front ++ covered ++ before) c behind (by simp [ahead]) with
      blank | ⟨other, among, starts, stops⟩
    · exact .inl blank
    · rw [Text.byteLength_append _ before, ← Nat.add_assoc, ← spans.stop] at starts stops
      rcases List.mem_cons.mp among with rfl | later
      · omega
      · exact .inr ⟨other, later, starts, stops⟩
  maximal := (List.isChain_cons.mp cut.maximal).2
  ended := by
    rcases cut.ended with ⟨_ | ⟨first, others⟩, last, same, kind, notLast⟩
    · obtain ⟨rfl, rfl⟩ := List.cons.inj same
      exact absurd kind more
    · obtain ⟨rfl, rfl⟩ := List.cons.inj same
      exact ⟨others, last, rfl, kind, fun other member =>
        notLast other (List.mem_cons_of_mem _ member)⟩

/-- A text that begins with a letter is cut into a word and more. -/
theorem exists_identifier {c : Char} {rest : List Char} (cut : Cut offset (c :: rest) tokens)
    (letter : isAlphabetic c = true) :
    ∃ first ∈ tokens.head?, ∃ name, first.kind = .identifier name ∧
      first.span.start.offset = offset := by
  rcases cut.ended with ⟨others, last, same, -, -⟩
  cases tokens with
  | nil => simp at same
  | cons first tokens =>
    rcases cut.covers first List.mem_cons_self with
      ⟨front, covered, behind, ahead, spans, spelled, nothing⟩
    have blank := (ahead ▸ cut).blanks_front spans.start
    cases front with
    | cons other front =>
      obtain rfl := (List.cons.inj ahead).1
      have visible := Text.isBlank_eq_false_of_isAlphabetic letter
      simp [visible] at blank
    | nil =>
      refine ⟨first, rfl, ?_⟩
      cases covered with
      | nil =>
        by_cases last : first.kind = .endOfInput
        · simp [nothing (.inr last)] at ahead
        · exact absurd rfl (spelled.ne_nil last)
      | cons other covered =>
        obtain rfl := (List.cons.inj ahead).1
        rcases spelled.identifier_of_letter letter with ⟨name, kind⟩
        exact ⟨name, kind, by simpa using spans.start⟩

theorem tokensAhead (cut : Cut offset characters tokens) :
    TokensAhead offset characters tokens := by
  induction tokens generalizing offset characters with
  | nil =>
    rcases cut.ended with ⟨others, last, same, -, -⟩
    simp at same
  | cons token tokens inductionHypothesis =>
    rcases cut.covers token List.mem_cons_self with
      ⟨front, covered, behind, rfl, spans, spelled, nothing⟩
    have blank := cut.blanks_front spans.start
    by_cases last : token.kind = .endOfInput
    · obtain rfl : tokens = [] := by
        rcases cut.ended with ⟨_ | ⟨first, others⟩, final, same, -, notLast⟩
        · exact (List.cons.inj same).2
        · obtain rfl := (List.cons.inj same).1
          exact absurd last (notLast _ List.mem_cons_self)
      rw [last] at spelled
      obtain rfl := spelled.eq_nil
      rw [nothing (.inr last), List.append_nil, List.append_nil]
      exact .ended blank last spans
    · have others := cut.tail spans last
      refine .next blank (spelled.lexeme nothing fun name kind c first => ?_) last spans
        (inductionHypothesis others)
      -- A letter behind a word would begin another word.
      rw [Bool.eq_false_iff]
      intro letter
      cases behind with
      | nil => cases first
      | cons other behind =>
        obtain rfl := Option.some.inj first
        rcases others.exists_identifier letter with ⟨next, head, nextName, nextKind, adjacent⟩
        exact (List.isChain_cons.mp cut.maximal).1 next head name nextName kind nextKind
          adjacent.symm

end Cut

end Cuts

/-! ## The tokens that are read -/

namespace Cursor

theorem tokens_of_endOfInput {cursor : Cursor} (ended : cursor.peek.kind = .endOfInput) :
    cursor.tokens = [cursor.peek] := by
  rw [tokens, dif_pos ended]

theorem tokens_of_more {cursor : Cursor} (more : cursor.peek.kind ≠ .endOfInput) :
    cursor.tokens = cursor.peek :: cursor.nextToken.2.tokens := by
  rw [tokens, dif_neg more]

/-- The tokens that a cursor reads are those ahead of it. -/
theorem tokensAhead_tokens (cursor : Cursor) :
    TokensAhead cursor.position.offset cursor.rest cursor.tokens := by
  -- The induction follows the reader: every token but the last leaves fewer characters ahead.
  induction length : cursor.rest.length using Nat.strong_induction_on generalizing cursor with
  | _ length inductionHypothesis =>
    rcases cursor.nextToken_spec with ⟨blanks, covered, blank, lexeme, passes, starts, stops⟩
    have spans : cursor.peek.span.Covers cursor.position.offset blanks covered := by
      refine ⟨?_, ?_⟩
      · rw [starts, Position.offset_after]
      · rw [stops, passes.position, Position.offset_after]
    have whole := passes.rest
    rw [List.append_assoc] at whole
    by_cases ended : cursor.peek.kind = .endOfInput
    · have nothing := lexeme.spelled.2 (.inr ended)
      rw [ended] at lexeme
      obtain rfl := lexeme.spelled.1.eq_nil
      rw [tokens_of_endOfInput ended, whole, nothing, List.append_nil, List.append_nil]
      exact .ended blank ended spans
    · have shorter := cursor.length_nextToken_lt ended
      have others := inductionHypothesis _ (length ▸ shorter) cursor.nextToken.2 rfl
      rw [tokens_of_more ended, whole]
      rw [← stops] at others
      exact .next blank lexeme ended spans others

end Cursor

/-- What a token covers is the text of its span. -/
theorem Span.text?_of_covers {span : Span} {source : String} {front covered behind : List Char}
    (whole : source.toList = front ++ (covered ++ behind)) (covers : span.Covers 0 front covered) :
    span.text? source = some (String.ofList covered) := by
  rw [Span.text?, Text.slice?_eq_some_iff]
  refine ⟨front, behind, by simpa using whole, ?_, ?_⟩
  · rw [covers.start, Nat.zero_add]
  · rw [covers.stop, Nat.zero_add, String.toList_ofList]

/--
The tokens of a text are a cut of it, at most one more than it has characters, and the only cut: a
list of tokens of which all this can be said has the same tokens at the same places.
-/
theorem tokenize_cuts_uniquely (source : String) :
    Cut 0 source.toList (tokenize source) ∧
      (∀ token ∈ tokenize source, ∃ covered, Spelled token.kind covered ∧
        token.span.text? source = some (String.ofList covered)) ∧
      (tokenize source).length ≤ source.toList.length + 1 ∧
      ((∃ token ∈ tokenize source, token.kind = .fault .unterminatedString) ↔
        source.toList.count '"' % 2 = 1) ∧
      ∀ tokens, Cut 0 source.toList tokens →
        tokens.map Token.stretch = (tokenize source).map Token.stretch := by
  have ahead : TokensAhead 0 source.toList (tokenize source) :=
    (Cursor.ofText source).tokensAhead_tokens
  refine ⟨ahead.cut, fun token member => ?_, ahead.length_le, ahead.unterminated_iff,
    fun tokens cut => cut.tokensAhead.unique ahead⟩
  rcases ahead.cut.covers token member with ⟨front, covered, behind, whole, covers, spelled, -⟩
  exact ⟨covered, spelled, Span.text?_of_covers whole covers⟩

/-- A word of two bytes before a string that is left open, at places of no line. -/
theorem tokenize_cuts_uniquely_of_open_string :
    let word : Token := ⟨.identifier "ş", ⟨⟨0, 0, 0⟩, 2⟩⟩
    let string : Token := ⟨.fault .unterminatedString, ⟨⟨3, 0, 0⟩, 5⟩⟩
    let last : Token := ⟨.endOfInput, ⟨⟨5, 0, 0⟩, 5⟩⟩
    Cut 0 "ş \"b".toList [word, string, last] ∧
      [word, string, last].map Token.stretch = (tokenize "ş \"b").map Token.stretch := by
  intro word string last
  have blank : Blanks [' '] := by
    simpa using (by decide : isBlank ' ' = true)
  have letter : isAlphabetic 'ş' = true := by decide +kernel
  have named : Lexeme word.kind ['ş'] [' ', '"', 'b'] :=
    .identifier letter (by simp) (by rintro c ⟨⟩; decide +kernel)
  have opened : Lexeme string.kind ['"', 'b'] [] := .unterminated (by decide)
  have ended : TokensAhead string.span.stop [] [last] := .ended Text.blanks_nil rfl ⟨rfl, rfl⟩
  have others : TokensAhead word.span.stop [' ', '"', 'b'] [string, last] :=
    .next blank opened (by decide) ⟨rfl, rfl⟩ ended
  have ahead : TokensAhead 0 "ş \"b".toList [word, string, last] :=
    .next Text.blanks_nil named (by decide) ⟨rfl, rfl⟩ others
  exact ⟨ahead.cut, (tokenize_cuts_uniquely _).2.2.2.2 _ ahead.cut⟩

end Concord.Source
