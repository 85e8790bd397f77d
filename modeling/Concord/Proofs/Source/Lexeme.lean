import Concord.Proofs.Text.Blanks
import Concord.Source.Lexer

/-!
# Written tokens

What the characters of each token are, said without the reader: a relation between the kind of a
token, the characters that it covers, and the characters behind it.  The main statements say that
reading finds exactly the token that stands ahead, and that the raw text of an annotation is the
longest run without its closing character, a quote or a line feed.
-/

namespace Concord.Source

open Text (Blanks isBlank split_iff)
open Unicode (isAlphabetic)

/-- A character that begins no token but an error. -/
structure Foreign (c : Char) : Prop where
  notBlank : isBlank c = false
  notLetter : isAlphabetic c = false
  notDelimiter : c ∉ ['[', ']', '<', '>', '"']

theorem notDelimiter_of_isAlphabetic {c : Char} (letter : isAlphabetic c = true) :
    c ∉ ['[', ']', '<', '>', '"'] := by
  intro member
  -- Checked on the list, since a statement about every character would be decided on all of them.
  have noLetter : ['[', ']', '<', '>', '"'].all (!isAlphabetic ·) = true := by decide +kernel
  have foreign := List.all_eq_true.mp noLetter c member
  simp [letter] at foreign

/-- The characters `covered` are a token of this kind when `rest` comes behind them. -/
inductive Lexeme : TokenKind → (covered rest : List Char) → Prop
  | openBracket : Lexeme .openBracket ['['] rest
  | closeBracket : Lexeme .closeBracket [']'] rest
  | openAngle : Lexeme .openAngle ['<'] rest
  | closeAngle : Lexeme .closeAngle ['>'] rest
  | quoted (unquoted : '"' ∉ text) :
    Lexeme (.quoted (String.ofList text)) ('"' :: (text ++ ['"'])) rest
  | unterminated (unquoted : '"' ∉ text) :
    Lexeme (.fault .unterminatedString) ('"' :: text) []
  | identifier
    (letter : isAlphabetic c = true)
    (letters : ∀ other ∈ others, isAlphabetic other = true)
    (ends : ∀ next ∈ rest.head?, isAlphabetic next = false) :
    Lexeme (.identifier (String.ofList (c :: others))) (c :: others) rest
  | unexpected (foreign : Foreign c) :
    Lexeme (.fault (.unexpectedCharacter c)) [c] rest
  | endOfInput : Lexeme .endOfInput [] []

/-- An identifier goes on as long as letters do. -/
theorem Lexeme.ends {name : String} {covered rest : List Char}
    (lexeme : Lexeme (.identifier name) covered rest) :
    ∀ c ∈ rest.head?, isAlphabetic c = false := by
  cases lexeme with
  | identifier letter letters ends => exact ends

/-- A token of this kind is the next one of a text, and `rest` comes behind it. -/
def TokenAhead (characters : List Char) (kind : TokenKind) (rest : List Char) : Prop :=
  ∃ blanks covered, Blanks blanks ∧ Lexeme kind covered rest ∧
    characters = blanks ++ (covered ++ rest)

namespace Cursor

theorem takeWhile_iff (cursor : Cursor) (test : Char → Bool) (front back : List Char) :
    (cursor.takeWhile test).1 = front ∧ (cursor.takeWhile test).2.rest = back ↔
      cursor.rest = front ++ back ∧ (∀ c ∈ front, test c = true) ∧
        ∀ c ∈ back.head?, test c = false :=
  split_iff

/-! ## Right at a token -/

theorem scanString_closed {cursor : Cursor} {text rest : List Char}
    (unquoted : '"' ∉ text) (ahead : cursor.rest = text ++ '"' :: rest) :
    cursor.scanString.1 = .quoted (String.ofList text) ∧ cursor.scanString.2.rest = rest := by
  have others := Text.decide_ne_of_not_mem unquoted
  rcases (cursor.takeWhile_iff (· ≠ '"') _ _).mpr ⟨ahead, others, by simp⟩ with ⟨taken, behind⟩
  simp only [scanString, behind, taken, step, and_self]

theorem scanString_open {cursor : Cursor} (unquoted : '"' ∉ cursor.rest) :
    cursor.scanString.1 = .fault .unterminatedString ∧ cursor.scanString.2.rest = [] := by
  have others := Text.decide_ne_of_not_mem unquoted
  rcases (cursor.takeWhile_iff (· ≠ '"') _ _).mpr ⟨(List.append_nil _).symm, others, by simp⟩ with
    ⟨taken, behind⟩
  simp only [scanString, behind, and_self]

theorem scanString_sound (cursor : Cursor) :
    ∃ covered, Lexeme cursor.scanString.1 ('"' :: covered) cursor.scanString.2.rest ∧
      cursor.rest = covered ++ cursor.scanString.2.rest := by
  by_cases quoted : '"' ∈ cursor.rest
  · rcases List.eq_append_cons_of_mem quoted with ⟨text, rest, ahead, unquoted⟩
    rcases scanString_closed unquoted ahead with ⟨kind, behind⟩
    rw [kind, behind]
    exact ⟨text ++ ['"'], .quoted unquoted, by simp [ahead]⟩
  · rcases scanString_open quoted with ⟨kind, behind⟩
    rw [kind, behind]
    exact ⟨cursor.rest, .unterminated quoted, by simp⟩

theorem scanAfter_sound {c : Char} (next : Cursor) (notBlank : isBlank c = false) :
    ∃ covered, Lexeme (scanAfter c next).1 (c :: covered) (scanAfter c next).2.rest ∧
      next.rest = covered ++ (scanAfter c next).2.rest := by
  unfold scanAfter
  split_ifs with open_ close angle closeAngle quote letter
  · exact ⟨[], open_ ▸ .openBracket, rfl⟩
  · exact ⟨[], close ▸ .closeBracket, rfl⟩
  · exact ⟨[], angle ▸ .openAngle, rfl⟩
  · exact ⟨[], closeAngle ▸ .closeAngle, rfl⟩
  · exact quote ▸ next.scanString_sound
  · rcases (next.takeWhile_iff isAlphabetic _ _).mp ⟨rfl, rfl⟩ with ⟨whole, letters, ends⟩
    exact ⟨(next.takeWhile isAlphabetic).1, .identifier letter letters ends, whole⟩
  · have foreign : Foreign c := by
      refine ⟨notBlank, by simpa using letter, ?_⟩
      simp [*]
    exact ⟨[], .unexpected foreign, rfl⟩

/-- What is read at a character that is no blank is a token that stands there. -/
theorem scan_sound (start : Cursor) (notBlank : ∀ c ∈ start.rest.head?, isBlank c = false) :
    ∃ covered, Lexeme start.scan.1 covered start.scan.2.rest ∧
      start.rest = covered ++ start.scan.2.rest := by
  cases ahead : start.rest with
  | nil =>
    refine ⟨[], ?_, ?_⟩
    · simpa [scan, ahead] using Lexeme.endOfInput
    · simp [scan, ahead]
  | cons c rest =>
    have first : isBlank c = false := notBlank c (by simp [ahead])
    rcases scanAfter_sound (start.step c rest) first with ⟨covered, lexeme, whole⟩
    refine ⟨c :: covered, ?_, ?_⟩
    · simpa [scan, ahead] using lexeme
    · simpa [scan, ahead, step] using whole

/-- A token that stands at the cursor is read. -/
theorem scan_complete {start : Cursor} {kind : TokenKind} {covered rest : List Char}
    (lexeme : Lexeme kind covered rest) (ahead : start.rest = covered ++ rest) :
    start.scan.1 = kind ∧ start.scan.2.rest = rest := by
  cases lexeme with
  | openBracket => simp [scan, ahead, scanAfter, step]
  | closeBracket => simp [scan, ahead, scanAfter, step]
  | openAngle => simp [scan, ahead, scanAfter, step]
  | closeAngle => simp [scan, ahead, scanAfter, step]
  | @quoted text _ unquoted =>
    have inside : (start.step '"' (text ++ '"' :: rest)).rest = text ++ '"' :: rest := rfl
    simpa [scan, ahead, scanAfter] using scanString_closed unquoted inside
  | @unterminated text unquoted =>
    have inside : '"' ∉ (start.step '"' text).rest := unquoted
    simpa [scan, ahead, scanAfter] using scanString_open inside
  | @identifier c others _ letter letters ends =>
    rcases ((start.step c (others ++ rest)).takeWhile_iff isAlphabetic _ _).mpr
        ⟨rfl, letters, ends⟩ with
      ⟨taken, behind⟩
    have other : c ∉ ['[', ']', '<', '>', '"'] := notDelimiter_of_isAlphabetic letter
    simp only [List.mem_cons, List.not_mem_nil, or_false, not_or] at other
    simp [scan, ahead, scanAfter, scanIdentifier, letter, taken, behind, other]
  | @unexpected c _ foreign =>
    have other := foreign.notDelimiter
    simp only [List.mem_cons, List.not_mem_nil, or_false, not_or] at other
    simp [scan, ahead, scanAfter, step, foreign.notLetter, other]
  | endOfInput => simp [scan, ahead]

/-! ## Behind blanks -/

theorem notBlank_of_lexeme {kind : TokenKind} {covered rest : List Char}
    (lexeme : Lexeme kind covered rest) :
    ∀ c ∈ (covered ++ rest).head?, isBlank c = false := by
  intro c first
  cases lexeme with
  | identifier letter letters ends =>
    cases first
    exact Text.isBlank_eq_false_of_isAlphabetic letter
  | unexpected foreign =>
    cases first
    exact foreign.notBlank
  | endOfInput => cases first
  | _ =>
    cases first
    decide

/-- Reading yields a token and a rest exactly if this token is the next one before this rest. -/
theorem nextToken_iff (cursor : Cursor) (kind : TokenKind) (rest : List Char) :
    cursor.peek.kind = kind ∧ cursor.nextToken.2.rest = rest ↔
      TokenAhead cursor.rest kind rest := by
  rcases (cursor.takeWhile_iff isBlank _ _).mp ⟨rfl, rfl⟩ with ⟨whole, blank, stops⟩
  constructor
  · rintro ⟨rfl, rfl⟩
    rcases scan_sound (cursor.dropWhile isBlank) stops with ⟨covered, lexeme, ahead⟩
    exact ⟨_, covered, blank, lexeme, ahead ▸ whole⟩
  · rintro ⟨blanks, covered, blank, lexeme, ahead⟩
    have start : (cursor.dropWhile isBlank).rest = covered ++ rest := by
      rw [dropWhile, takeWhile, ahead]
      exact Text.dropWhile_isBlank_append blank (notBlank_of_lexeme lexeme)
    exact scan_complete lexeme start

end Cursor

/-- There is only one next token. -/
theorem TokenAhead.unique {characters rest other : List Char} {kind otherKind : TokenKind}
    (ahead : TokenAhead characters kind rest)
    (otherAhead : TokenAhead characters otherKind other) :
    kind = otherKind ∧ rest = other := by
  let cursor : Cursor := ⟨characters, .start⟩
  rcases (cursor.nextToken_iff kind rest).mpr ahead with ⟨kindEq, restEq⟩
  rcases (cursor.nextToken_iff otherKind other).mpr otherAhead with ⟨otherKindEq, otherEq⟩
  exact ⟨kindEq.symm.trans otherKindEq, restEq.symm.trans otherEq⟩

/-- A text that begins with a letter begins with an identifier. -/
theorem TokenAhead.head_not_letter {characters rest : List Char} {kind : TokenKind}
    (ahead : TokenAhead characters kind rest) (other : ∀ name, kind ≠ .identifier name) :
    ∀ c ∈ characters.head?, isAlphabetic c = false := by
  rcases ahead with ⟨blanks, covered, blank, lexeme, rfl⟩
  intro c first
  rw [Bool.eq_false_iff]
  intro letter
  cases blanks with
  | cons b others =>
    cases first
    have visible := Text.isBlank_eq_false_of_isAlphabetic letter
    simp [visible] at blank
  | nil =>
    cases lexeme with
    | identifier => exact other _ rfl
    | unexpected foreign =>
      cases first
      simp [foreign.notLetter] at letter
    | endOfInput => cases first
    | _ =>
      cases first
      exact notDelimiter_of_isAlphabetic letter (by decide)

/-- A blank text holds no token but the end of input, and no other text is without one. -/
theorem tokenAhead_endOfInput_iff {characters rest : List Char} :
    TokenAhead characters .endOfInput rest ↔ Blanks characters ∧ rest = [] := by
  constructor
  · rintro ⟨blanks, covered, blank, lexeme, rfl⟩
    cases lexeme
    simpa using blank
  · rintro ⟨blank, rfl⟩
    exact ⟨characters, [], blank, .endOfInput, by simp⟩

/-! ## The text of an annotation -/

/-- A character that can stand in an annotation which is closed by `close`. -/
def Inside (close : Char) (c : Char) : Prop :=
  c ≠ close ∧ c ≠ '"' ∧ c ≠ '\n'

instance (close c : Char) : Decidable (Inside close c) :=
  inferInstanceAs (Decidable (c ≠ close ∧ c ≠ '"' ∧ c ≠ '\n'))

/-- The text of an annotation is the longest run that its closing character does not end. -/
theorem Cursor.annotationText_iff (cursor : Cursor) (close : Char) (text rest : List Char) :
    (cursor.annotationText close).text = String.ofList text ∧
        (cursor.annotationText close).next.rest = rest ↔
      cursor.rest = text ++ rest ∧ (∀ c ∈ text, Inside close c) ∧
        ∀ c ∈ rest.head?, ¬ Inside close c := by
  have split := cursor.takeWhile_iff (fun c => c ≠ close ∧ c ≠ '"' ∧ c ≠ '\n') text rest
  simpa only [Inside, decide_eq_true_eq, decide_eq_false_iff_not, annotationText,
    String.ofList_inj] using split

theorem Cursor.annotationText_spec (cursor : Cursor) (close : Char) :
    ∃ text, (cursor.annotationText close).text = String.ofList text ∧
      cursor.rest = text ++ (cursor.annotationText close).next.rest ∧
      (∀ c ∈ text, Inside close c) ∧
      ∀ c ∈ (cursor.annotationText close).next.rest.head?, ¬ Inside close c :=
  ⟨_, rfl, (cursor.annotationText_iff close _ _).mp ⟨rfl, rfl⟩⟩

end Concord.Source
