import Mathlib.Data.List.Forall2
import Mathlib.Tactic.SplitIfs
import Concord.Proofs.Source.Passage

/-!
# Readings side by side

Two texts that are not the same can be read in the same way.  A likeness says which letters stand
for each other outside of strings, and which places of the one text correspond to which of the
other.  Two cursors at corresponding places before texts that are alike read tokens that are alike,
and stand at corresponding places before such texts again.
-/

namespace Concord.Source

open Text (isBlank)
open Unicode (isAlphabetic)

/-- Which characters outside of strings stand for each other, and which places correspond. -/
structure Likeness where
  alike : Char → Char → Prop
  placed : Position → Position → Prop
  refl : ∀ c, alike c c
  /-- Only a letter can stand for another character. -/
  letters : ∀ {c d}, alike c d → c = d ∨ isAlphabetic c = true ∧ isAlphabetic d = true
  next : ∀ {c d place other}, alike c d → placed place other → placed (place.next c) (other.next d)

namespace Likeness

/-- Two names whose characters stand for each other. -/
def Names (likeness : Likeness) (name other : String) : Prop :=
  List.Forall₂ likeness.alike name.toList other.toList

/-- Two texts that have the same strings, and outside of them characters for each other. -/
inductive Texts (likeness : Likeness) : List Char → List Char → Prop
  | nil : Texts likeness [] []
  | character
    (alike : likeness.alike c d)
    (unquoted : c ≠ '"')
    (behind : Texts likeness characters others) :
    Texts likeness (c :: characters) (d :: others)
  | string
    (unquoted : '"' ∉ text)
    (behind : Texts likeness characters others) :
    Texts likeness ('"' :: (text ++ '"' :: characters)) ('"' :: (text ++ '"' :: others))
  | unterminated (unquoted : '"' ∉ text) : Texts likeness ('"' :: text) ('"' :: text)

/-- Two cursors at corresponding places, before texts that are alike. -/
structure Cursors (likeness : Likeness) (cursor other : Cursor) : Prop where
  texts : likeness.Texts cursor.rest other.rest
  placed : likeness.placed cursor.position other.position

/-- Two tokens that differ at most in their names. -/
inductive Kinds (likeness : Likeness) : TokenKind → TokenKind → Prop
  | same : Kinds likeness kind kind
  | identifier (names : likeness.Names name other) :
    Kinds likeness (.identifier name) (.identifier other)

section Readings

variable {likeness : Likeness} {cursor other : Cursor} {characters others : List Char}
  {test : Char → Bool}

/-- The two kinds are the same, unless they are names. -/
theorem Kinds.eq_iff {kind otherKind single : TokenKind} (kinds : likeness.Kinds kind otherKind)
    (special : ∀ name, single ≠ .identifier name) : kind = single ↔ otherKind = single := by
  cases kinds with
  | same => rfl
  | identifier =>
    constructor
    · rintro rfl
      exact absurd rfl (special _)
    · rintro rfl
      exact absurd rfl (special _)

/-! ## Texts -/

theorem forall₂_refl (likeness : Likeness) (characters : List Char) :
    List.Forall₂ likeness.alike characters characters :=
  List.forall₂_same.mpr fun c _ => likeness.refl c

theorem placed_after {place otherPlace : Position}
    (alike : List.Forall₂ likeness.alike characters others)
    (placed : likeness.placed place otherPlace) :
    likeness.placed (place.after characters) (otherPlace.after others) := by
  induction alike generalizing place otherPlace with
  | nil => exact placed
  | cons first _ inductionHypothesis => exact inductionHypothesis (likeness.next first placed)

theorem Texts.append {front otherFront : List Char}
    (alike : List.Forall₂ likeness.alike front otherFront) (unquoted : '"' ∉ front)
    (behind : likeness.Texts characters others) :
    likeness.Texts (front ++ characters) (otherFront ++ others) := by
  induction alike with
  | nil => exact behind
  | cons first _ inductionHypothesis =>
    rw [List.mem_cons, not_or] at unquoted
    exact .character first (Ne.symm unquoted.1) (inductionHypothesis unquoted.2)

/-- Every text is like itself. -/
theorem Texts.refl (likeness : Likeness) (characters : List Char) :
    likeness.Texts characters characters := by
  -- The induction goes from string to string.
  induction length : characters.length using Nat.strong_induction_on generalizing characters with
  | _ length inductionHypothesis =>
    by_cases quoted : '"' ∈ characters
    · rcases List.eq_append_cons_of_mem quoted with ⟨front, rest, rfl, outside⟩
      refine .append (likeness.forall₂_refl front) outside ?_
      by_cases closed : '"' ∈ rest
      · rcases List.eq_append_cons_of_mem closed with ⟨text, behind, rfl, unquoted⟩
        have shorter : behind.length < (front ++ '"' :: (text ++ '"' :: behind)).length := by
          simp only [List.length_append, List.length_cons]
          omega
        exact .string unquoted (inductionHypothesis _ (length ▸ shorter) _ rfl)
      · exact .unterminated closed
    · simpa using Texts.append (likeness.forall₂_refl characters) quoted .nil

/-! ## Runs of characters -/

/-- A test that makes no difference between characters which stand for each other. -/
def Respects (likeness : Likeness) (test : Char → Bool) : Prop :=
  ∀ c d, likeness.alike c d → test c = test d

/-- A test that treats all letters in the same way. -/
theorem respects_of_letters {test : Char → Bool} {outcome : Bool}
    (letters : ∀ c, isAlphabetic c = true → test c = outcome) : likeness.Respects test := by
  intro c d alike
  rcases likeness.letters alike with rfl | ⟨letter, otherLetter⟩
  · rfl
  · rw [letters c letter, letters d otherLetter]

theorem forall₂_dropWhile (respects : likeness.Respects test)
    (alike : List.Forall₂ likeness.alike characters others) :
    List.Forall₂ likeness.alike (characters.dropWhile test) (others.dropWhile test) := by
  induction alike with
  | nil => exact .nil
  | @cons c d characters others first behind inductionHypothesis =>
    rw [List.dropWhile_cons, List.dropWhile_cons, respects c d first]
    split
    · exact inductionHypothesis
    · exact .cons first behind

/-- A run that ends at a quote at the latest is like the run in the other text. -/
theorem Texts.takeWhile (texts : likeness.Texts characters others)
    (respects : likeness.Respects test) (stops : test '"' = false) :
    List.Forall₂ likeness.alike (characters.takeWhile test) (others.takeWhile test) ∧
      likeness.Texts (characters.dropWhile test) (others.dropWhile test) := by
  induction texts with
  | nil => exact ⟨.nil, .nil⟩
  | @character c d characters others alike unquoted behind inductionHypothesis =>
    have same := respects c d alike
    cases passes : test d with
    | true => simpa [same, passes, alike] using inductionHypothesis
    | false =>
      simp only [List.takeWhile_cons, List.dropWhile_cons, same, passes, Bool.false_eq_true,
        if_false]
      exact ⟨.nil, .character alike unquoted behind⟩
  | string unquoted behind =>
    simp only [List.takeWhile_cons, List.dropWhile_cons, stops, Bool.false_eq_true, if_false]
    exact ⟨.nil, .string unquoted behind⟩
  | unterminated unquoted =>
    simp only [List.takeWhile_cons, List.dropWhile_cons, stops, Bool.false_eq_true, if_false]
    exact ⟨.nil, .unterminated unquoted⟩

theorem Cursors.takeWhile (cursors : likeness.Cursors cursor other)
    (respects : likeness.Respects test) (stops : test '"' = false) :
    List.Forall₂ likeness.alike (cursor.takeWhile test).1 (other.takeWhile test).1 ∧
      likeness.Cursors (cursor.takeWhile test).2 (other.takeWhile test).2 := by
  rcases cursors.texts.takeWhile respects stops with ⟨taken, behind⟩
  exact ⟨taken, behind, placed_after taken cursors.placed⟩

/-! ## Tokens -/

theorem scanAfter_of_isAlphabetic {c : Char} (letter : isAlphabetic c = true) (next : Cursor) :
    Cursor.scanAfter c next = next.scanIdentifier c := by
  have other := notDelimiter_of_isAlphabetic letter
  simp only [List.mem_cons, List.not_mem_nil, or_false, not_or] at other
  simp [Cursor.scanAfter, other, letter]

theorem Cursors.scanIdentifier {c d : Char} (cursors : likeness.Cursors cursor other)
    (alike : likeness.alike c d) :
    likeness.Kinds (cursor.scanIdentifier c).1 (other.scanIdentifier d).1 ∧
      likeness.Cursors (cursor.scanIdentifier c).2 (other.scanIdentifier d).2 := by
  rcases cursors.takeWhile (respects_of_letters fun _ letter => letter) (by decide +kernel) with
    ⟨taken, behind⟩
  refine ⟨.identifier ?_, behind⟩
  rw [Names, String.toList_ofList, String.toList_ofList]
  exact .cons alike taken

/-- Behind two characters that stand for each other, the tokens that they begin are alike. -/
theorem Cursors.scanAfter {c d : Char} (cursors : likeness.Cursors cursor other)
    (alike : likeness.alike c d) (unquoted : c ≠ '"') :
    likeness.Kinds (Cursor.scanAfter c cursor).1 (Cursor.scanAfter d other).1 ∧
      likeness.Cursors (Cursor.scanAfter c cursor).2 (Cursor.scanAfter d other).2 := by
  rcases likeness.letters alike with rfl | ⟨letter, otherLetter⟩
  · unfold Cursor.scanAfter
    split_ifs with open_ close angle closeAngle letter
    · exact ⟨.same, cursors⟩
    · exact ⟨.same, cursors⟩
    · exact ⟨.same, cursors⟩
    · exact ⟨.same, cursors⟩
    · exact cursors.scanIdentifier alike
    · exact ⟨.same, cursors⟩
  · rw [scanAfter_of_isAlphabetic letter, scanAfter_of_isAlphabetic otherLetter]
    exact cursors.scanIdentifier alike

theorem scanString_eq_of_closed {text rest : List Char} (unquoted : '"' ∉ text)
    (ahead : cursor.rest = text ++ '"' :: rest) :
    cursor.scanString =
      (.quoted (String.ofList text), ⟨rest, cursor.position.after (text ++ ['"'])⟩) := by
  rcases Text.split_iff.mpr ⟨ahead, Text.decide_ne_of_not_mem unquoted, by simp⟩ with
    ⟨taken, behind⟩
  simp only [Cursor.scanString, Cursor.takeWhile, taken, behind, Cursor.step,
    Position.after_append, Position.after_cons, Position.after_nil]

theorem scanString_eq_of_open (unquoted : '"' ∉ cursor.rest) :
    cursor.scanString =
      (.fault .unterminatedString, ⟨[], cursor.position.after cursor.rest⟩) := by
  rcases Text.split_iff.mpr ⟨(List.append_nil _).symm, Text.decide_ne_of_not_mem unquoted, by simp⟩
    with ⟨taken, behind⟩
  simp only [Cursor.scanString, Cursor.takeWhile, taken, behind]

/-- Right at a token, the tokens that are read are alike. -/
theorem Cursors.scan (cursors : likeness.Cursors cursor other) :
    likeness.Kinds cursor.scan.1 other.scan.1 ∧ likeness.Cursors cursor.scan.2 other.scan.2 := by
  rcases cursor with ⟨rest, place⟩
  rcases other with ⟨otherRest, otherPlace⟩
  rcases cursors with ⟨texts, placed⟩
  have opened : likeness.placed (place.next '"') (otherPlace.next '"') :=
    likeness.next (likeness.refl _) placed
  cases texts with
  | nil => exact ⟨.same, .nil, placed⟩
  | character alike unquoted behind =>
    exact Cursors.scanAfter ⟨behind, likeness.next alike placed⟩ alike unquoted
  | @string characters others text unquoted behind =>
    change likeness.Kinds (Cursor.scanString _).1 (Cursor.scanString _).1 ∧
      likeness.Cursors (Cursor.scanString _).2 (Cursor.scanString _).2
    rw [scanString_eq_of_closed unquoted rfl, scanString_eq_of_closed unquoted rfl]
    exact ⟨.same, behind, placed_after (likeness.forall₂_refl _) opened⟩
  | @unterminated text unquoted =>
    change likeness.Kinds (Cursor.scanString _).1 (Cursor.scanString _).1 ∧
      likeness.Cursors (Cursor.scanString _).2 (Cursor.scanString _).2
    rw [scanString_eq_of_open unquoted, scanString_eq_of_open unquoted]
    exact ⟨.same, .nil, placed_after (likeness.forall₂_refl _) opened⟩

/-- The next tokens are alike and begin at corresponding places, and so does what is behind them. -/
theorem Cursors.nextToken (cursors : likeness.Cursors cursor other) :
    likeness.Kinds cursor.peek.kind other.peek.kind ∧
      likeness.placed cursor.peek.span.start other.peek.span.start ∧
      likeness.Cursors cursor.nextToken.2 other.nextToken.2 := by
  have visible : likeness.Respects isBlank :=
    respects_of_letters fun _ => Text.isBlank_eq_false_of_isAlphabetic
  have start := (cursors.takeWhile visible (by decide)).2
  rcases Cursors.scan start with ⟨kinds, behind⟩
  exact ⟨kinds, start.placed, behind⟩

/-- The texts of annotations are alike, up to a closing character that is no letter. -/
theorem Cursors.annotationText {close : Char} (cursors : likeness.Cursors cursor other)
    (delimiter : isAlphabetic close = false) :
    likeness.Names (cursor.annotationText close).text (other.annotationText close).text ∧
      likeness.placed (cursor.annotationText close).span.start
        (other.annotationText close).span.start ∧
      likeness.Cursors (cursor.annotationText close).next (other.annotationText close).next := by
  have inside : ∀ c, isAlphabetic c = true → decide (c ≠ close ∧ c ≠ '"' ∧ c ≠ '\n') = true := by
    intro c letter
    have notDelimiter := notDelimiter_of_isAlphabetic letter
    have notBlank := Text.isBlank_eq_false_of_isAlphabetic letter
    refine decide_eq_true ⟨?_, ?_, ?_⟩
    · rintro rfl
      simp [letter] at delimiter
    · rintro rfl
      exact notDelimiter (by decide)
    · rintro rfl
      exact absurd notBlank (by decide)
  rcases cursors.takeWhile (respects_of_letters inside) (by simp) with ⟨taken, behind⟩
  refine ⟨?_, cursors.placed, behind⟩
  rw [Names, Cursor.annotationText, Cursor.annotationText, String.toList_ofList,
    String.toList_ofList]
  exact taken

end Readings

end Likeness

end Concord.Source
