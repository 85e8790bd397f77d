import Mathlib.Data.List.Forall2
import Concord.Proofs.Parsing.Recognition
import Concord.Terminal.Highlight

/-!
# The colours of a line that can be read

The colours of a line are found without the parser.  Where the parser accepts a line, both see the
same parts: a verb, strings, and annotations, each with the delimiters around it; and what has no
colour are the blanks between them.  An annotation is coloured up to its closing delimiter, whatever
else is in it, and a closing delimiter that the parser has accepted is the first one.

What a colour comes to on a terminal is written out here: a piece with a colour is shown as its text
between two escape sequences, of which the second ends all colours.
-/

namespace Concord.Terminal

open Parsing
open Text (Blanks isBlank)
open Unicode (isAlphabetic)

/-! ## Pieces -/

@[simp]
theorem piecesFrom_nil (verbPossible : Bool) : piecesFrom verbPossible [] = [] := by
  rw [piecesFrom]

theorem piecesFrom_opening {verbPossible : Bool} {c close : Char} {paint : Paint}
    {rest : List Char} (opens : opening? c = some (paint, close)) :
    piecesFrom verbPossible (c :: rest) =
      ⟨some paint, c :: (splitThrough close rest).1⟩ ::
        piecesFrom false (splitThrough close rest).2 := by
  rw [piecesFrom]
  simp only [opens]

theorem piecesFrom_verb {c : Char} {rest : List Char} (inner : opening? c = none)
    (letter : isAlphabetic c = true) :
    piecesFrom true (c :: rest) =
      ⟨some .boldGreen, c :: rest.takeWhile isAlphabetic⟩ ::
        piecesFrom false (rest.dropWhile isAlphabetic) := by
  rw [piecesFrom]
  simp [inner, letter]

theorem piecesFrom_plain {verbPossible : Bool} {c : Char} {rest : List Char}
    (inner : opening? c = none) (other : (isAlphabetic c && verbPossible) = false) :
    piecesFrom verbPossible (c :: rest) = ⟨none, [c]⟩ :: piecesFrom verbPossible rest := by
  rw [piecesFrom]
  simp [inner, other]

/-- Up to its first closing character, and no further. -/
theorem splitThrough_append {close : Char} {inner : List Char} (unclosed : close ∉ inner)
    (rest : List Char) :
    splitThrough close (inner ++ close :: rest) = (inner ++ [close], rest) := by
  have others := Text.decide_ne_of_not_mem unclosed
  have stops : ∀ c ∈ (close :: rest).head?, decide (c ≠ close) = false := by
    rintro c ⟨⟩
    simp
  rcases Text.split_iff.mpr ⟨rfl, others, stops⟩ with ⟨taken, behind⟩
  simp only [splitThrough, taken, behind]

theorem splitThrough_append_splitThrough (close : Char) (characters : List Char) :
    (splitThrough close characters).1 ++ (splitThrough close characters).2 = characters := by
  have whole := List.takeWhile_append_dropWhile (p := (· ≠ close)) (l := characters)
  simp only [splitThrough]
  split
  · next ended =>
    rw [ended] at whole
    exact whole
  · next found behind ahead =>
    rw [ahead] at whole
    rw [List.append_assoc]
    exact whole

theorem opening?_eq_none {c : Char} (other : c ∉ ['[', ']', '<', '>', '"']) :
    opening? c = none := by
  simp only [List.mem_cons, List.not_mem_nil, or_false, not_or] at other
  simp [opening?, other]

theorem opening?_eq_none_of_isAlphabetic {c : Char} (letter : isAlphabetic c = true) :
    opening? c = none :=
  opening?_eq_none (Source.notDelimiter_of_isAlphabetic letter)

theorem opening?_eq_none_of_isBlank {c : Char} (blank : isBlank c = true) :
    opening? c = none := by
  refine opening?_eq_none fun member => ?_
  have visible : ['[', ']', '<', '>', '"'].all (!isBlank ·) = true := by decide
  have other := List.all_eq_true.mp visible c member
  simp [blank] at other

/-! ## Escape sequences -/

/-- The escape sequence that begins a colour of a line. -/
def Paint.begins? : Paint → Option String
  | boldGreen => some "\x1b[1;32m"
  | yellow => some "\x1b[33m"
  | cyan => some "\x1b[36m"
  | magenta => some "\x1b[35m"
  | _ => none

/--
A piece is shown as it is, or, if it has a colour, between the sequence that begins the colour and
the one that ends all colours.
-/
inductive Piece.ShownAs : Piece → String → Prop
  | plain {text : List Char} : ShownAs ⟨none, text⟩ (String.ofList text)
  | coloured {colour : Paint} {sequence : String} {text : List Char}
    (begins : colour.begins? = some sequence) :
    ShownAs ⟨some colour, text⟩ (sequence ++ String.ofList text ++ "\x1b[0m")

theorem begins?_of_opening? {c close : Char} {paint : Paint}
    (opens : opening? c = some (paint, close)) : paint.begins? = some paint.sequence := by
  unfold opening? at opens
  split_ifs at opens <;>
  · cases opens
    rfl

/-- The pieces of a line are shown in their colours. -/
theorem shownAs_render {verbPossible : Bool} {characters : List Char} {piece : Piece}
    (member : piece ∈ piecesFrom verbPossible characters) : piece.ShownAs piece.render := by
  fun_induction piecesFrom verbPossible characters with
  | case1 => cases member
  | case2 verbPossible c rest paint close opens inductionHypothesis =>
    rcases List.mem_cons.mp member with rfl | behind
    · exact .coloured (begins?_of_opening? opens)
    · exact inductionHypothesis behind
  | case3 verbPossible c rest inner first inductionHypothesis =>
    rcases List.mem_cons.mp member with rfl | behind
    · exact .coloured rfl
    · exact inductionHypothesis behind
  | case4 verbPossible c rest inner other inductionHypothesis =>
    rcases List.mem_cons.mp member with rfl | behind
    · exact .plain
    · exact inductionHypothesis behind

/-- A line that is not blank is shown piece by piece. -/
theorem exists_shown {line : String} (visible : ¬Blanks line.toList) :
    ∃ shown, List.Forall₂ Piece.ShownAs (pieces line) shown ∧
      highlight? line = some (String.join shown) := by
  refine ⟨(pieces line).map Piece.render, ?_, ?_⟩
  · rw [List.forall₂_map_right_iff, List.forall₂_same]
    exact fun piece member => shownAs_render member
  · rw [highlight?, if_neg]
    exact fun blank => visible (List.all_eq_true.mp blank)

/-! ## Pieces with a colour -/

/-- These are the pieces with a colour, in order, and the other ones are blank. -/
structure Shows (verbPossible : Bool) (characters : List Char) (coloured : List Piece) :
    Prop where
  coloured : (piecesFrom verbPossible characters).filter (·.paint.isSome) = coloured
  blank : ∀ piece ∈ piecesFrom verbPossible characters, piece.paint = none →
    Blanks piece.characters

namespace Shows

variable {verbPossible : Bool} {blanks rest : List Char} {coloured : List Piece}

theorem nil : Shows verbPossible [] [] :=
  ⟨by simp, by simp⟩

theorem afterBlanks (blank : Blanks blanks) (shown : Shows verbPossible rest coloured) :
    Shows verbPossible (blanks ++ rest) coloured := by
  induction blanks with
  | nil => exact shown
  | cons c blanks inductionHypothesis =>
    rcases Text.blanks_cons.mp blank with ⟨first, others⟩
    have notLetter : isAlphabetic c = false := by
      rw [Bool.eq_false_iff]
      intro letter
      simp [Text.isBlank_eq_false_of_isAlphabetic letter] at first
    have other : (isAlphabetic c && verbPossible) = false := by rw [notLetter, Bool.false_and]
    have behind := inductionHypothesis others
    refine ⟨?_, ?_⟩
    · rw [List.cons_append, piecesFrom_plain (opening?_eq_none_of_isBlank first) other]
      exact behind.coloured
    · rw [List.cons_append, piecesFrom_plain (opening?_eq_none_of_isBlank first) other]
      refine List.forall_mem_cons.mpr ⟨fun _ => ?_, behind.blank⟩
      exact Text.blanks_cons.mpr ⟨first, Text.blanks_nil⟩

/-- A piece with a colour, and what is shown behind it. -/
theorem cons {characters : List Char} {paint : Paint} {covered : List Char}
    (split : piecesFrom verbPossible characters =
      ⟨some paint, covered⟩ :: piecesFrom false rest)
    (behind : Shows false rest coloured) :
    Shows verbPossible characters (⟨some paint, covered⟩ :: coloured) := by
  refine ⟨?_, ?_⟩
  · rw [split, ← behind.coloured]
    rfl
  · rw [split]
    refine List.forall_mem_cons.mpr ⟨fun plain => ?_, behind.blank⟩
    cases plain

theorem opened (verbPossible : Bool) {c close : Char} {paint : Paint} {inner : List Char}
    (opens : opening? c = some (paint, close)) (unclosed : close ∉ inner)
    (behind : Shows false rest coloured) :
    Shows verbPossible (c :: (inner ++ close :: rest))
      (⟨some paint, c :: (inner ++ [close])⟩ :: coloured) := by
  refine cons ?_ behind
  rw [piecesFrom_opening opens, splitThrough_append unclosed]

theorem verb {letters : List Char} (nonempty : letters ≠ [])
    (alphabetic : ∀ c ∈ letters, isAlphabetic c = true)
    (ends : ∀ c ∈ rest.head?, isAlphabetic c = false) (behind : Shows false rest coloured) :
    Shows true (letters ++ rest) (⟨some .boldGreen, letters⟩ :: coloured) := by
  rcases List.exists_cons_of_ne_nil nonempty with ⟨c, others, rfl⟩
  rcases List.forall_mem_cons.mp alphabetic with ⟨letter, alphabetic⟩
  rcases Text.split_iff.mpr ⟨rfl, alphabetic, ends⟩ with ⟨taken, left⟩
  refine cons ?_ behind
  rw [List.cons_append, piecesFrom_verb (opening?_eq_none_of_isAlphabetic letter) letter, taken,
    left]

end Shows

/-! ## The parts of a line -/

/-- An annotation as it is written. -/
structure WrittenTag where
  /-- The blanks in front of the opening delimiter. -/
  before : List Char
  /-- What is between the delimiters. -/
  inner : List Char

/-- A string as it is written, perhaps with its case. -/
structure WrittenString where
  /-- The blanks in front of the opening quote. -/
  before : List Char
  text : List Char
  tag : Option WrittenTag

/-- A line as it is written, and the blanks at its ends. -/
inductive WrittenLine where
  | literal (string : WrittenString) (behind : List Char)
  | command (before verb : List Char) (tag : Option WrittenTag) (strings : List WrittenString)
      (behind : List Char)

/-- The colour of an annotation. -/
def paintOf : Category → Paint
  | .grammaticalCase => .cyan
  | .grammaticalMood => .magenta

/-- An annotation from its opening through its closing delimiter. -/
def WrittenTag.delimited (tag : WrittenTag) (category : Category) : List Char :=
  category.opening :: (tag.inner ++ [category.closing])

def tagCharacters (category : Category) : Option WrittenTag → List Char
  | none => []
  | some tag => tag.before ++ tag.delimited category

def tagPieces (category : Category) : Option WrittenTag → List Piece
  | none => []
  | some tag => [⟨some (paintOf category), tag.delimited category⟩]

namespace WrittenString

/-- The string with its quotes and its annotation. -/
def body (string : WrittenString) : List Char :=
  '"' :: (string.text ++ '"' :: tagCharacters .grammaticalCase string.tag)

/-- One piece for the string with its quotes, and one for its annotation if it has one. -/
def pieces (string : WrittenString) : List Piece :=
  ⟨some .yellow, '"' :: (string.text ++ ['"'])⟩ :: tagPieces .grammaticalCase string.tag

/-- The text and the annotation of the string are those of the argument. -/
inductive Spells (policy : AnnotationPolicy) : WrittenString → Expr → Prop
  | quoted {string : WrittenString}
    (blank : Blanks string.before)
    (unquoted : '"' ∉ string.text)
    (tagged : AnnotationSpelling cases policy (tagCharacters .grammaticalCase string.tag) found) :
    Spells policy string (.literal (String.ofList string.text) found)

end WrittenString

namespace WrittenLine

def characters : WrittenLine → List Char
  | literal string behind => string.before ++ (string.body ++ behind)
  | command before verb tag strings behind =>
    before ++ (verb ++ (tagCharacters .grammaticalMood tag ++
      (strings.flatMap (fun string => string.before ++ string.body) ++ behind)))

/-- The pieces of a line in order: the verb and its annotation, if any, and the strings. -/
def pieces : WrittenLine → List Piece
  | literal string _ => string.pieces
  | command _ verb tag strings _ =>
    ⟨some .boldGreen, verb⟩ :: (tagPieces .grammaticalMood tag ++
      strings.flatMap WrittenString.pieces)

theorem pieces_ne_nil (line : WrittenLine) : line.pieces ≠ [] := by
  cases line with
  | literal => exact List.cons_ne_nil _ _
  | command => exact List.cons_ne_nil _ _

/-- The parts of the line are spellings of the parts of the expression. -/
inductive Spells (policy : AnnotationPolicy) : WrittenLine → Expr → Prop
  | literal (spells : string.Spells policy argument) (blankBehind : Blanks behind) :
    Spells policy (.literal string behind) argument
  | command
    (blankBefore : Blanks before)
    (nonempty : verb ≠ [])
    (letters : ∀ c ∈ verb, isAlphabetic c = true)
    (tagged : AnnotationSpelling moods policy (tagCharacters .grammaticalMood tag) mood)
    (others : List.Forall₂ (WrittenString.Spells policy) strings arguments)
    (blankBehind : Blanks behind) :
    Spells policy (.command before verb tag strings behind)
      (.command (String.ofList verb) mood arguments)

end WrittenLine

/-! ## The colours of the parts -/

section Parts

variable {policy : AnnotationPolicy} {rest : List Char} {coloured : List Piece}

theorem opening?_opening (category : Category) :
    opening? category.opening = some (paintOf category, category.closing) := by
  cases category <;> rfl

theorem closing_not_mem_pause {category : Category} {between : List Char} (pause : Pause between) :
    category.closing ∉ between := by
  have visible : isBlank category.closing = false := by
    cases category <;> decide
  cases pause with
  | absent => exact List.not_mem_nil
  | lineFeed blank =>
    intro member
    rcases List.mem_cons.mp member with feed | among
    · rw [feed] at visible
      exact absurd visible (by decide)
    · exact absurd (blank _ among) (by simp [visible])

/-- An annotation that is spelled, if there is one, is one piece. -/
theorem exists_tag {vocabulary : Vocabulary tag} {characters : List Char} {found : tag}
    (spelling : AnnotationSpelling vocabulary policy characters found) :
    ∃ written, characters = tagCharacters vocabulary.category written ∧
      ∀ {rest coloured}, Shows false rest coloured →
        Shows false (characters ++ rest) (tagPieces vocabulary.category written ++ coloured) := by
  cases spelling with
  | absent => exact ⟨none, rfl, fun shown => shown⟩
  | @present before name between _ blank inside pause denotes =>
    have unclosed : vocabulary.category.closing ∉ name ++ between := by
      rw [List.mem_append, not_or]
      exact ⟨fun member => (inside _ member).1 rfl, closing_not_mem_pause pause⟩
    refine ⟨some ⟨before, name ++ between⟩, ?_, fun shown => ?_⟩
    · simp [tagCharacters, WrittenTag.delimited]
    · have opened := Shows.opened false (opening?_opening vocabulary.category) unclosed shown
      simpa [tagPieces, WrittenTag.delimited] using opened.afterBlanks blank

/-- A string that is spelled is one piece, perhaps with another one for its annotation. -/
theorem exists_string {before characters : List Char} {argument : Expr} (blank : Blanks before)
    (spelling : LiteralSpelling policy characters argument) :
    ∃ string : WrittenString, before ++ characters = string.before ++ string.body ∧
      string.Spells policy argument ∧
      ∀ verbPossible {rest coloured}, Shows false rest coloured →
        Shows verbPossible (before ++ (characters ++ rest)) (string.pieces ++ coloured) := by
  cases spelling with
  | @quoted text tagged found unquoted tag =>
    rcases exists_tag tag with ⟨written, rfl, tagShown⟩
    refine ⟨⟨before, text, written⟩, rfl, .quoted blank unquoted tag,
      fun verbPossible _ _ shown => ?_⟩
    have opens : opening? '"' = some (.yellow, '"') := rfl
    have string := Shows.opened verbPossible opens unquoted (tagShown shown)
    simpa [WrittenString.pieces, cases] using string.afterBlanks blank

/-- Strings that are spelled are these pieces, one string after the other. -/
theorem exists_strings {characters : List Char} {arguments : List Expr}
    (spelling : ArgumentsSpelling policy characters arguments) :
    ∃ strings : List WrittenString,
      characters = strings.flatMap (fun string => string.before ++ string.body) ∧
      List.Forall₂ (WrittenString.Spells policy) strings arguments ∧
      ∀ {rest coloured}, Shows false rest coloured →
        Shows false (characters ++ rest) (strings.flatMap WrittenString.pieces ++ coloured) := by
  induction spelling with
  | none => exact ⟨[], rfl, .nil, fun shown => shown⟩
  | next blank literal others inductionHypothesis =>
    rcases inductionHypothesis with ⟨strings, rfl, spells, othersShown⟩
    rcases exists_string blank literal with ⟨string, whole, first, firstShown⟩
    refine ⟨string :: strings, ?_, .cons first spells, fun shown => ?_⟩
    · rw [List.flatMap_cons, ← whole, List.append_assoc]
    · simpa using firstShown false (othersShown shown)

theorem exists_line {characters : List Char} {expression : Expr}
    (spelling : LineSpelling policy characters expression) :
    ∃ line : WrittenLine, characters = line.characters ∧ line.Spells policy expression ∧
      Shows true characters line.pieces := by
  cases spelling with
  | @line before _ _ behind blankBefore spelling blankBehind =>
    have last : Shows false behind [] := by
      simpa using Shows.nil.afterBlanks blankBehind
    cases spelling with
    | literal literal =>
      rcases exists_string blankBefore literal with ⟨string, whole, spells, stringShown⟩
      refine ⟨.literal string behind, ?_, .literal spells blankBehind, ?_⟩
      · rw [← List.append_assoc, whole, List.append_assoc]
        rfl
      · simpa [WrittenLine.pieces] using stringShown true last
    | @command verb tagged mood characters arguments nonempty letters tag others =>
      rcases exists_strings others with ⟨strings, whole, spells, stringsShown⟩
      rcases exists_tag tag with ⟨written, rfl, tagShown⟩
      have ends := tag.head_not_letter (others.head_not_letter blankBehind)
      have shown := Shows.verb nonempty letters ends (tagShown (stringsShown last))
      refine ⟨.command before verb written strings behind, ?_,
        .command blankBefore nonempty letters tag spells blankBehind, ?_⟩
      · simp [WrittenLine.characters, whole, moods]
      · simpa [WrittenLine.pieces, moods] using shown.afterBlanks blankBefore

end Parts

/-- The pieces of a text make up the text. -/
theorem flatMap_characters_piecesFrom (verbPossible : Bool) (characters : List Char) :
    (piecesFrom verbPossible characters).flatMap Piece.characters = characters := by
  fun_induction piecesFrom verbPossible characters with
  | case1 => rfl
  | case2 verbPossible c rest paint close opens inductionHypothesis =>
    rw [List.flatMap_cons, inductionHypothesis, List.cons_append, splitThrough_append_splitThrough]
  | case3 verbPossible c rest inner first inductionHypothesis =>
    rw [List.flatMap_cons, inductionHypothesis, List.cons_append,
      List.takeWhile_append_dropWhile]
  | case4 verbPossible c rest inner other inductionHypothesis =>
    rw [List.flatMap_cons, inductionHypothesis, List.singleton_append]

/--
Where a line can be read, its parts make up its colours: each verb, annotation and string is one
piece, in this order, and all that is left without colour is blank.  Each piece is shown as it is or
between the escape sequences of its colour.
-/
theorem exists_parts_of_parseLine {policy : AnnotationPolicy} {source : String}
    {expression : Expr} (read : parseLine policy source = .ok expression) :
    ∃ (line : WrittenLine) (shown : List String),
      source.toList = line.characters ∧ line.Spells policy expression ∧
      (pieces source).filter (·.paint.isSome) = line.pieces ∧
      (∀ piece ∈ pieces source, piece.paint = none → Blanks piece.characters) ∧
      (pieces source).flatMap Piece.characters = source.toList ∧
      List.Forall₂ Piece.ShownAs (pieces source) shown ∧
      highlight? source = some (String.join shown) := by
  rcases exists_line (lineSpelling_of_parseLine read) with ⟨line, whole, spells, shows⟩
  have visible : ¬Blanks source.toList := by
    intro blank
    have bare : Shows true source.toList [] := by
      simpa using Shows.nil.afterBlanks blank
    exact line.pieces_ne_nil (shows.coloured.symm.trans bare.coloured)
  rcases exists_shown visible with ⟨shown, displayed, highlighted⟩
  exact ⟨line, shown, whole, spells, shows.coloured, shows.blank,
    flatMap_characters_piecesFrom true source.toList, displayed, highlighted⟩

/-- A quote and a line feed in a mood, letters behind it, and a string full of delimiters. -/
theorem exists_parts_of_crowded_line :
    let source := "\tsil< [x]\n >\"<a\"\"\"[Yönelme ]"
    let expression : Expr :=
      .command "sil" .imperative [.literal "<a" .nominative, .literal "" .dative]
    parseLine .lenient source = .ok expression ∧
      ∃ (line : WrittenLine) (shown : List String),
        source.toList = line.characters ∧ line.Spells .lenient expression ∧
        (pieces source).filter (·.paint.isSome) = line.pieces ∧
        (∀ piece ∈ pieces source, piece.paint = none → Blanks piece.characters) ∧
        (pieces source).flatMap Piece.characters = source.toList ∧
        List.Forall₂ Piece.ShownAs (pieces source) shown ∧
        highlight? source = some (String.join shown) := by
  intro source expression
  have read : parseLine .lenient source = .ok expression := by decide +kernel
  exact ⟨read, exists_parts_of_parseLine read⟩

end Concord.Terminal
