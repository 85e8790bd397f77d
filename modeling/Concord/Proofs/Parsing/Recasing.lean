import Concord.Proofs.Agreement.Validation
import Concord.Proofs.Parsing.SideBySide
import Concord.Proofs.Source.Strings
import Concord.Proofs.Unicode.LetterCase

/-!
# Letter case outside of strings

Outside of strings it does not matter in which case letters from A to Z are written.  A line that
is cased differently is the same command with its verb cased differently, or it fails at the same
place.  Rules look at verbs in lower case, so that the two commands agree or disagree with them
alike.
-/

namespace Concord

open Unicode (SameLetter SameLetters lowercase)

/-- Two lines that are the same up to letter case, and so are the verdicts on them. -/
inductive SameLine (table : RuleTable) : Expr → Expr → Prop
  | literal : SameLine table (.literal text tag) (.literal text tag)
  | command
    (verbs : SameLetters verb other)
    (verdicts : SameVerdict verb other (table.validate verb mood arguments)
      (table.validate other mood arguments)) :
    SameLine table (.command verb mood arguments) (.command other mood arguments)

namespace Parsing

open Source (Cursor Lexeme Likeness Position TokenKind tokenize)
open Text (byteLength splitAtByte?_append slice?_eq_some_iff)

/-- The one text is the other with letters from A to Z in another case, but not in its strings. -/
structure Recases (source other : String) : Prop where
  letters : SameLetters source other
  strings : ∀ token ∈ tokenize source, token.kind.isString = true →
    token.span.text? other = token.span.text? source

/-- The text cannot be read as a line, because of what is at this line and column. -/
def FailsAt (policy : AnnotationPolicy) (source : String) (line column : Nat) : Prop :=
  ∃ message excerpt,
    parseLine policy source = .error (.ofKind (.parse message line column excerpt))

/-! ## Recased texts -/

theorem next_eq_of_sameLetter {c d : Char} (same : SameLetter c d) (place : Position) :
    place.next c = place.next d := by
  rcases same.eq_or_letters with rfl | ⟨letter, otherLetter⟩
  · rfl
  · have unbroken {c : Char} (letter : Unicode.isAlphabetic c = true) : c ≠ '\n' := by
      rintro rfl
      exact absurd letter (by decide +kernel)
    rw [Position.next, Position.next, if_neg (unbroken letter), if_neg (unbroken otherLetter),
      same.utf8Size_eq]

/-- Letters stand for each other in either case, at the same places. -/
def recasing : Likeness where
  alike := SameLetter
  placed := Eq
  refl := SameLetter.refl
  letters := SameLetter.eq_or_letters
  next := by
    rintro c d place _ same rfl
    exact next_eq_of_sameLetter same place

theorem byteLength_eq_of_sameLetters {characters others : List Char}
    (same : List.Forall₂ SameLetter characters others) :
    byteLength characters = byteLength others := by
  induction same with
  | nil => rfl
  | cons first _ inductionHypothesis =>
    rw [Text.byteLength_cons, Text.byteLength_cons, first.utf8Size_eq, inductionHypothesis]

theorem keepsNames_recasing : KeepsNames recasing where
  cases name other names := by
    have same : lowercase name = lowercase other := Unicode.lowercase_congr names
    simp only [Parsing.cases, Case.ofName?, same]
  moods name other names := by
    have same : lowercase name = lowercase other := Unicode.lowercase_congr names
    simp only [Parsing.moods, Mood.ofName?, same]

section Texts

variable {source other : String} {cursor next : Cursor}
  {passed covered rest front others : List Char}

theorem exists_append_of_sameLetters (same : List.Forall₂ SameLetter (covered ++ rest) others) :
    ∃ recased behind, others = recased ++ behind ∧ List.Forall₂ SameLetter covered recased ∧
      List.Forall₂ SameLetter rest behind := by
  refine ⟨others.take covered.length, others.drop covered.length,
    (List.take_append_drop ..).symm, ?_, ?_⟩
  · simpa using List.forall₂_take covered.length same
  · simpa using List.forall₂_drop covered.length same

/-- What stands unchanged in a recased text is the same there. -/
theorem eq_of_text?_eq {recased behind : List Char} {span : Source.Span}
    (lies : span.Lies source passed covered rest)
    (unchanged : span.text? other = span.text? source)
    (whole : other.toList = front ++ (recased ++ behind))
    (sameFront : List.Forall₂ SameLetter passed front)
    (same : List.Forall₂ SameLetter covered recased) : covered = recased := by
  have found := Source.Span.text?_of_covers lies.whole lies.covers
  rcases slice?_eq_some_iff.mp (unchanged.trans found) with ⟨before, after, split, starts, -⟩
  have start := lies.covers.start
  rw [String.toList_ofList] at split
  rw [Nat.zero_add, byteLength_eq_of_sameLetters sameFront, ← starts] at start
  have cut := splitAtByte?_append before (covered ++ after)
  rw [start, ← split, whole, splitAtByte?_append] at cut
  obtain ⟨-, ahead⟩ := Prod.mk.inj (Option.some.inj cut)
  exact (List.append_inj_left ahead same.length_eq.symm).symm

/-- What is ahead in a recased text, from corresponding places on, is alike. -/
theorem texts_of_sameLetters (reached : (Cursor.ofText source).Passes passed cursor)
    (whole : other.toList = front ++ others)
    (sameFront : List.Forall₂ SameLetter passed front)
    (same : List.Forall₂ SameLetter cursor.rest others)
    (strings : ∀ token ∈ cursor.tokens, token.kind.isString = true →
      token.span.text? other = token.span.text? source) :
    recasing.Texts cursor.rest others := by
  -- The induction follows the tokens: between strings, characters stand for each other.
  induction length : cursor.rest.length using Nat.strong_induction_on
    generalizing cursor passed front others with
  | _ length inductionHypothesis =>
    rcases cursor.passes_token with ⟨blanks, covered, blank, lexeme, skipped, passes⟩
    rw [skipped.rest, passes.rest] at same ⊢
    rcases exists_append_of_sameLetters same with ⟨skippedToo, tokenOn, rfl, sameBlanks, sameToken⟩
    rcases exists_append_of_sameLetters sameToken with
      ⟨recased, behind, rfl, sameCovered, sameBehind⟩
    have noQuote := Source.quote_not_mem_of_blanks blank
    refine .append sameBlanks noQuote ?_
    by_cases ended : cursor.peek.kind = .endOfInput
    · rw [ended] at lexeme
      generalize cursor.nextToken.2.rest = rest at lexeme sameBehind
      cases lexeme
      cases sameCovered
      cases sameBehind
      exact .nil
    have later : recasing.Texts cursor.nextToken.2.rest behind := by
      refine inductionHypothesis _ (length ▸ cursor.length_nextToken_lt ended)
        (reached.trans (skipped.trans passes)) ?_
        (List.rel_append sameFront (List.rel_append sameBlanks sameCovered)) sameBehind ?_ rfl
      · simpa using whole
      · intro token member
        rw [Source.Cursor.tokens_of_more ended] at strings
        exact strings token (List.mem_cons_of_mem _ member)
    rcases lexeme.spelled.1.quote_cases with ⟨string, first⟩ | ⟨-, unquoted⟩
    · have lies := Cursor.lies_of_passes (reached.trans skipped) passes
      have unchanged := strings cursor.peek
        (by rw [Source.Cursor.tokens_of_more ended]; exact List.mem_cons_self) string
      obtain rfl := eq_of_text?_eq lies unchanged (by simpa using whole)
        (List.rel_append sameFront sameBlanks) sameCovered
      generalize cursor.peek.kind = kind at lexeme string
      generalize cursor.nextToken.2.rest = rest at lexeme later sameBehind
      cases lexeme with
      | quoted unquoted => simpa using Likeness.Texts.string unquoted later
      | unterminated unquoted =>
        cases sameBehind
        simpa using Likeness.Texts.unterminated unquoted
      | _ => cases string
    · exact .append sameCovered unquoted later

end Texts

theorem Recases.cursors {source other : String} (recases : Recases source other) :
    recasing.Cursors (Cursor.ofText source) (Cursor.ofText other) := by
  have start : (Cursor.ofText source).Passes [] (Cursor.ofText source) := .refl _
  exact ⟨texts_of_sameLetters start rfl .nil recases.letters recases.strings, rfl⟩

/--
A line and the same line with letters from A to Z in another case, outside of its strings: both are
read, and then they are the same up to the case of the verb, and any table accepts both or rejects
them with the same error up to the verb; or they fail at the same line and column.
-/
theorem parseLine_of_recases (policy : AnnotationPolicy) (table : RuleTable)
    {source other : String} (recases : Recases source other) :
    (∃ expression another, parseLine policy source = .ok expression ∧
      parseLine policy other = .ok another ∧ SameLine table expression another) ∨
    ∃ line column, FailsAt policy source line column ∧ FailsAt policy other line column := by
  have like := (parseRest_like keepsNames_recasing policy recases.cursors).result
  have read (source : String) : parseLine policy source =
      (parseRest policy (Cursor.ofText source)).result.mapError (·.toError source) := rfl
  simp only [FailsAt, read]
  generalize (parseRest policy (Cursor.ofText source)).result = result at like
  generalize (parseRest policy (Cursor.ofText other)).result = another at like
  cases like with
  | ok expressions =>
    refine .inl ⟨_, _, rfl, rfl, ?_⟩
    cases expressions with
    | literal => exact .literal
    | command names =>
      exact .command names (table.sameVerdict_validate (Unicode.lowercase_congr names) _ _)
  | @error error another errors =>
    have place : error.position = another.position := errors.placed
    exact .inr ⟨_, _, ⟨_, _, rfl⟩, _, _, by rw [place]; rfl⟩

/-- The verb ends in a capital sigma, which has one lower case behind either form of a letter. -/
theorem parseLine_of_recases_before_sigma :
    let source := "yolΣ <EMIR\n>\"Ev\" [dative]"
    let other := "YOLΣ <Emir\n>\"Ev\" [DATIVE]"
    let table := RuleTable.empty.insert "yolς" .imperative ⟨"Leave", "origin", .each .ablative⟩
    Recases source other ∧
      parseLine .strict source = .ok (.command "yolΣ" .imperative [.literal "Ev" .dative]) ∧
      ∃ another, parseLine .strict other = .ok another ∧
        SameLine table (.command "yolΣ" .imperative [.literal "Ev" .dative]) another := by
  intro source other table
  have recases : Recases source other := by
    refine ⟨?_, ?_⟩
    · unfold SameLetters
      decide +kernel
    · decide +kernel
  have read : parseLine .strict source =
      .ok (.command "yolΣ" .imperative [.literal "Ev" .dative]) := by
    decide +kernel
  refine ⟨recases, read, ?_⟩
  rcases parseLine_of_recases .strict table recases with
    ⟨expression, another, first, second, same⟩ | ⟨line, column, ⟨message, excerpt, failed⟩, -⟩
  · obtain rfl := Except.ok.inj (read.symm.trans first)
    exact ⟨another, second, same⟩
  · rw [read] at failed
    cases failed

end Parsing

end Concord
