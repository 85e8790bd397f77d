import Concord.Parsing.Parser
import Concord.Proofs.Source.Lexeme

/-!
# The grammar of lines

How each part of a line is spelled, said without the parser.  A line is an expression between
blanks; an expression is a string, or a verb with strings behind it; a string and a verb may carry
an annotation.  Between the name of an annotation and its closing delimiter there may be a line feed
and further blanks, which are no part of the name.
-/

namespace Concord.Parsing

open Source (Inside Lexeme TokenAhead TokenKind)
open Text (Blanks isBlank trim)
open Unicode (isAlphabetic)

/-- The character that opens an annotation. -/
def Category.opening : Category → Char
  | grammaticalCase => '['
  | grammaticalMood => '<'

/-- What may stand between a name and the delimiter that closes it. -/
inductive Pause : List Char → Prop
  | absent : Pause []
  | lineFeed (blank : Blanks blanks) : Pause ('\n' :: blanks)

/-- A blank that cannot stand in a name is a line feed. -/
theorem eq_lineFeed_of_not_inside {category : Category} {c : Char} (blank : isBlank c = true)
    (stops : ¬ Inside category.closing c) : c = '\n' := by
  by_contra other
  apply stops
  refine ⟨?_, ?_, other⟩
  · rintro rfl
    cases category <;> exact absurd blank (by decide)
  · rintro rfl
    exact absurd blank (by decide)

/-- What a written name stands for.  Only a lenient reader makes something of every name. -/
inductive Denotes (vocabulary : Vocabulary tag) : AnnotationPolicy → List Char → tag → Prop
  | known (resolved : vocabulary.resolve (trim (String.ofList name)) = some found) :
    Denotes vocabulary policy name found
  | unknown (unresolved : vocabulary.resolve (trim (String.ofList name)) = none) :
    Denotes vocabulary .lenient name vocabulary.fallback

/-- A spelling of an annotation, which may be left out. -/
inductive AnnotationSpelling (vocabulary : Vocabulary tag) (policy : AnnotationPolicy) :
    List Char → tag → Prop
  | absent : AnnotationSpelling vocabulary policy [] vocabulary.fallback
  | present
    (blank : Blanks before)
    (inside : ∀ c ∈ name, Inside vocabulary.category.closing c)
    (pause : Pause between)
    (denotes : Denotes vocabulary policy name found) :
    AnnotationSpelling vocabulary policy
      (before ++ vocabulary.category.opening ::
        (name ++ (between ++ [vocabulary.category.closing]))) found

/-- A spelling of a string with its case. -/
inductive LiteralSpelling (policy : AnnotationPolicy) : List Char → Expr → Prop
  | quoted
    (unquoted : '"' ∉ text)
    (tagged : AnnotationSpelling cases policy characters found) :
    LiteralSpelling policy ('"' :: (text ++ '"' :: characters))
      (.literal (String.ofList text) found)

/-- A spelling of strings, each perhaps behind blanks. -/
inductive ArgumentsSpelling (policy : AnnotationPolicy) : List Char → List Expr → Prop
  | none : ArgumentsSpelling policy [] []
  | next
    (blank : Blanks before)
    (literal : LiteralSpelling policy characters argument)
    (others : ArgumentsSpelling policy behind arguments) :
    ArgumentsSpelling policy (before ++ (characters ++ behind)) (argument :: arguments)

/-- A spelling of an expression. -/
inductive ExpressionSpelling (policy : AnnotationPolicy) : List Char → Expr → Prop
  | literal (spelling : LiteralSpelling policy characters expression) :
    ExpressionSpelling policy characters expression
  | command
    (nonempty : verb ≠ [])
    (letters : ∀ c ∈ verb, isAlphabetic c = true)
    (tagged : AnnotationSpelling moods policy characters mood)
    (others : ArgumentsSpelling policy behind arguments) :
    ExpressionSpelling policy (verb ++ (characters ++ behind))
      (.command (String.ofList verb) mood arguments)

/-- A spelling of a line: an expression between blanks. -/
inductive LineSpelling (policy : AnnotationPolicy) : List Char → Expr → Prop
  | line
    (blankBefore : Blanks before)
    (spelling : ExpressionSpelling policy characters expression)
    (blankBehind : Blanks behind) :
    LineSpelling policy (before ++ (characters ++ behind)) expression

/-! ## The tokens with which spellings begin -/

theorem lexeme_opening_iff {category : Category} {covered rest : List Char} :
    Lexeme category.openingKind covered rest ↔ covered = [category.opening] := by
  cases category with
  | grammaticalCase =>
    constructor
    · rintro ⟨⟩
      rfl
    · rintro rfl
      exact .openBracket
  | grammaticalMood =>
    constructor
    · rintro ⟨⟩
      rfl
    · rintro rfl
      exact .openAngle

theorem lexeme_closing_iff {category : Category} {covered rest : List Char} :
    Lexeme category.closingKind covered rest ↔ covered = [category.closing] := by
  cases category with
  | grammaticalCase =>
    constructor
    · rintro ⟨⟩
      rfl
    · rintro rfl
      exact .closeBracket
  | grammaticalMood =>
    constructor
    · rintro ⟨⟩
      rfl
    · rintro rfl
      exact .closeAngle

theorem openingKind_ne_identifier (category : Category) (name : String) :
    category.openingKind ≠ .identifier name := by
  cases category <;> simp [Category.openingKind]

/-- Letters do not go on where an annotation begins, nor where it is left out before no letter. -/
theorem AnnotationSpelling.head_not_letter {vocabulary : Vocabulary tag}
    {policy : AnnotationPolicy} {characters rest : List Char} {found : tag}
    (spelling : AnnotationSpelling vocabulary policy characters found)
    (ends : ∀ c ∈ rest.head?, isAlphabetic c = false) :
    ∀ c ∈ (characters ++ rest).head?, isAlphabetic c = false := by
  cases spelling with
  | absent => exact ends
  | @present before name between _ blank _ _ _ =>
    have ahead : TokenAhead (before ++ vocabulary.category.opening ::
          (name ++ (between ++ [vocabulary.category.closing])) ++ rest)
        vocabulary.category.openingKind
        (name ++ (between ++ vocabulary.category.closing :: rest)) :=
      ⟨before, [vocabulary.category.opening], blank, lexeme_opening_iff.mpr rfl, by simp⟩
    exact ahead.head_not_letter (openingKind_ne_identifier _)

/-- No annotation follows on what is ahead. -/
def Unannotated (category : Category) (characters : List Char) : Prop :=
  ∀ rest, ¬ TokenAhead characters category.openingKind rest

/-- Strings and blanks behind them begin with a quote or with the end of the text. -/
theorem ArgumentsSpelling.tokenAhead {policy : AnnotationPolicy}
    {characters blanks : List Char} {arguments : List Expr}
    (spelling : ArgumentsSpelling policy characters arguments) (blank : Blanks blanks) :
    (∃ text rest, TokenAhead (characters ++ blanks) (.quoted text) rest) ∨
      TokenAhead (characters ++ blanks) .endOfInput [] := by
  cases spelling with
  | none => exact .inr (Source.tokenAhead_endOfInput_iff.mpr ⟨blank, rfl⟩)
  | @next before _ _ behind _ blankBefore literal others =>
    cases literal with
    | @quoted text tagged _ unquoted _ =>
      refine .inl ⟨String.ofList text, tagged ++ (behind ++ blanks), before,
        '"' :: (text ++ ['"']), blankBefore, .quoted unquoted, ?_⟩
      simp

theorem ArgumentsSpelling.head_not_letter {policy : AnnotationPolicy}
    {characters blanks : List Char} {arguments : List Expr}
    (spelling : ArgumentsSpelling policy characters arguments) (blank : Blanks blanks) :
    ∀ c ∈ (characters ++ blanks).head?, isAlphabetic c = false := by
  rcases spelling.tokenAhead blank with ⟨text, rest, ahead⟩ | ahead
  · exact ahead.head_not_letter (by simp)
  · exact ahead.head_not_letter (by simp)

theorem unannotated_of_tokenAhead {category : Category} {kind : TokenKind}
    {characters rest : List Char}
    (ahead : TokenAhead characters kind rest) (other : kind ≠ category.openingKind) :
    Unannotated category characters := by
  intro behind opened
  exact other (ahead.unique opened).1

theorem unannotated_of_blanks (category : Category) {blanks : List Char}
    (blank : Blanks blanks) : Unannotated category blanks :=
  unannotated_of_tokenAhead (Source.tokenAhead_endOfInput_iff.mpr ⟨blank, rfl⟩)
    (by cases category <;> simp [Category.openingKind])

theorem ArgumentsSpelling.unannotated {policy : AnnotationPolicy} (category : Category)
    {characters blanks : List Char} {arguments : List Expr}
    (spelling : ArgumentsSpelling policy characters arguments) (blank : Blanks blanks) :
    Unannotated category (characters ++ blanks) := by
  rcases spelling.tokenAhead blank with ⟨text, rest, ahead⟩ | ahead
  · exact unannotated_of_tokenAhead ahead (by cases category <;> simp [Category.openingKind])
  · exact unannotated_of_tokenAhead ahead (by cases category <;> simp [Category.openingKind])

end Concord.Parsing
