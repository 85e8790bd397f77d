import Concord.Proofs.Parsing.Recognition
import Concord.Proofs.Source.Strings

/-!
# The strings of a line

What a line spells and what its tokens are is said apart from each other.  Both find the same
strings, since only strings have quotes: annotations, verbs and blanks have none, and passing over
them leaves the strings ahead as they are.
-/

namespace Concord

namespace Expr

mutual

/-- The texts of the literals in an expression, from left to right. -/
def texts : Expr → List String
  | literal text _ => [text]
  | reference _ => []
  | command _ _ arguments => textsAll arguments
  | sequence items => textsAll items

/-- The texts of the literals in expressions, in order. -/
def textsAll : List Expr → List String
  | [] => []
  | item :: items => texts item ++ textsAll items

end

end Expr

namespace Parsing

open Source (Cursor Lexeme Reply Request Token TokenAhead tokenize)

/-! ## Strings among characters -/

/-- The strings in these characters have these texts, whatever comes behind them. -/
def HoldsStrings (characters : List Char) (texts : List String) : Prop :=
  ∀ cursor next : Cursor, cursor.Passes characters next →
    cursor.strings.map Token.kind = texts.map .quoted ++ next.strings.map Token.kind

theorem HoldsStrings.append {first second : List Char} {texts others : List String}
    (holds : HoldsStrings first texts) (alsoHolds : HoldsStrings second others) :
    HoldsStrings (first ++ second) (texts ++ others) := by
  intro cursor last passes
  rcases passes.split with ⟨next, before, behind⟩
  rw [holds _ _ before, alsoHolds _ _ behind, List.map_append, List.append_assoc]

theorem holdsStrings_of_not_mem {characters : List Char} (without : '"' ∉ characters) :
    HoldsStrings characters [] := by
  intro cursor next passes
  rw [Cursor.strings_eq_of_passes passes without]
  rfl

theorem holdsStrings_quoted {text : List Char} (unquoted : '"' ∉ text) :
    HoldsStrings ('"' :: (text ++ ['"'])) [String.ofList text] := by
  intro cursor next passes
  have ahead : TokenAhead cursor.rest (.quoted (String.ofList text)) next.rest :=
    ⟨[], _, Text.blanks_nil, .quoted unquoted, passes.rest⟩
  rcases (cursor.nextToken_iff _ _).mpr ahead with ⟨kind, behind⟩
  rcases cursor.nextToken_spec with ⟨blanks, covered, -, -, moved, -, -⟩
  rw [cursor.strings_eq, moved.unique passes behind]
  simp [Reply.string?, Source.TokenKind.isString, kind]

/-! ## Strings in spellings -/

section Spellings

variable {policy : AnnotationPolicy} {characters : List Char}

theorem AnnotationSpelling.unquoted {vocabulary : Vocabulary tag} {found : tag}
    (spelling : AnnotationSpelling vocabulary policy characters found) : '"' ∉ characters := by
  cases spelling with
  | absent => exact List.not_mem_nil
  | @present before name between _ blank inside pause denotes =>
    have noQuote := Source.quote_not_mem_of_blanks blank
    have named : '"' ∉ name := fun member => (inside _ member).2.1 rfl
    have paused : '"' ∉ between := by
      cases pause with
      | absent => exact List.not_mem_nil
      | lineFeed blank => simpa using Source.quote_not_mem_of_blanks blank
    have delimiters (category : Category) : '"' ∉ [category.opening, category.closing] := by
      cases category <;> decide
    have others := delimiters vocabulary.category
    simp only [List.mem_cons, List.not_mem_nil, or_false, not_or] at others
    simp [noQuote, named, paused, others]

theorem LiteralSpelling.holdsStrings {expression : Expr}
    (spelling : LiteralSpelling policy characters expression) :
    HoldsStrings characters expression.texts := by
  cases spelling with
  | @quoted text characters found unquoted tagged =>
    have behind := holdsStrings_of_not_mem tagged.unquoted
    simpa [Expr.texts] using (holdsStrings_quoted unquoted).append behind

theorem ArgumentsSpelling.holdsStrings {arguments : List Expr}
    (spelling : ArgumentsSpelling policy characters arguments) :
    HoldsStrings characters (Expr.textsAll arguments) := by
  induction spelling with
  | none => exact holdsStrings_of_not_mem List.not_mem_nil
  | next blank literal others inductionHypothesis =>
    have before := holdsStrings_of_not_mem (Source.quote_not_mem_of_blanks blank)
    exact before.append (literal.holdsStrings.append inductionHypothesis)

theorem ExpressionSpelling.holdsStrings {expression : Expr}
    (spelling : ExpressionSpelling policy characters expression) :
    HoldsStrings characters expression.texts := by
  cases spelling with
  | literal spelling => exact spelling.holdsStrings
  | command nonempty letters tagged others =>
    have verb := holdsStrings_of_not_mem (Source.quote_not_mem_of_letters letters)
    have mood := holdsStrings_of_not_mem tagged.unquoted
    exact verb.append (mood.append others.holdsStrings)

theorem LineSpelling.holdsStrings {expression : Expr}
    (spelling : LineSpelling policy characters expression) :
    HoldsStrings characters expression.texts := by
  cases spelling with
  | line blankBefore spelling blankBehind =>
    have before := holdsStrings_of_not_mem (Source.quote_not_mem_of_blanks blankBefore)
    have behind := holdsStrings_of_not_mem (Source.quote_not_mem_of_blanks blankBehind)
    simpa using before.append (spelling.holdsStrings.append behind)

end Spellings

/--
However tokens and annotations are asked for, with whichever closing characters, the strings among
the replies are those of the text, at their places and in order, as far as the reading goes; and
they are all of them when it comes to the end of the input.  So the strings of a text that is a line
are the literals of its expression.
-/
theorem annotations_keep_strings (source : String) :
    (∀ requests : List Request,
      let replies := (Cursor.ofText source).replies requests
      let strings := (tokenize source).filter (·.kind.isString)
      replies.filterMap Reply.string? <+: strings ∧
        ∀ last, .token last ∈ replies → last.kind = .endOfInput →
          replies.filterMap Reply.string? = strings) ∧
      ∀ policy expression, parseLine policy source = .ok expression →
        ((tokenize source).filter (·.kind.isString)).map Token.kind =
          expression.texts.map .quoted := by
  refine ⟨fun requests => ⟨?_, fun last member kind => ?_⟩, fun policy expression read => ?_⟩
  · exact ⟨_, ((Cursor.ofText source).strings_replies requests).symm⟩
  · have all := (Cursor.ofText source).strings_replies requests
    rw [Cursor.strings_of_ended (Cursor.rest_afterAll member kind), List.append_nil] at all
    exact all.symm
  · obtain ⟨last, whole, ended⟩ :
        ∃ last, (Cursor.ofText source).Passes source.toList last ∧ last.rest = [] :=
      ⟨⟨[], Source.Position.start.after source.toList⟩, ⟨(List.append_nil _).symm, rfl⟩, rfl⟩
    have strings := (lineSpelling_of_parseLine read).holdsStrings _ _ whole
    rw [Cursor.strings_of_ended ended, List.map_nil, List.append_nil] at strings
    exact strings

/-- A mood that is not closed ends before a string, and a word is read in two parts. -/
theorem annotations_keep_strings_of_open_mood :
    let requests : List Request :=
      [.rawText 't', .token, .token, .rawText '>', .token, .token]
    ((Cursor.ofText "git <Emir \"ev\"").replies requests).filterMap Reply.string? =
        (tokenize "git <Emir \"ev\"").filter (·.kind.isString) ∧
      ((tokenize "git \"ev\"[]").filter (·.kind.isString)).map Token.kind = [.quoted "ev"] := by
  intro requests
  have ended : .token ⟨.endOfInput, ⟨⟨14, 1, 15⟩, 14⟩⟩ ∈
      (Cursor.ofText "git <Emir \"ev\"").replies requests := by
    decide +kernel
  have read : parseLine .lenient "git \"ev\"[]" =
      .ok (.command "git" moods.fallback [.literal "ev" cases.fallback]) := by
    decide +kernel
  refine ⟨((annotations_keep_strings _).1 requests).2 _ ended rfl, ?_⟩
  exact (annotations_keep_strings _).2 _ _ read

end Parsing

end Concord
