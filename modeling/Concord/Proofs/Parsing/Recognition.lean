import Concord.Proofs.Parsing.Spelling

/-!
# The parser recognizes the grammar

Each reader of the parser is compared with the spelling of what it reads.  What a reader accepts is
spelled in front of what it leaves, and what is spelled is accepted where nothing behind it could
belong to it.  Together, a text is read as an expression exactly if it spells the expression as a
line.
-/

namespace Concord.Parsing

open Source (Cursor Inside TokenAhead TokenKind)
open Text (Blanks trim)
open Unicode (isAlphabetic)

/-! ## Results of readers -/

/-- Reading gives a result and leaves the characters `behind`. -/
def Parsed.Yields (parsed : Parsed tag) (found : tag) (behind : List Char) : Prop :=
  parsed.result = .ok found ∧ parsed.rest.rest = behind

namespace Parsed

@[simp]
theorem yields_done {value found : tag} {cursor : Cursor} {behind : List Char} :
    (done value cursor).Yields found behind ↔ value = found ∧ cursor.rest = behind := by
  simp [Yields, done]

@[simp]
theorem not_yields_failed {error : SyntaxError} {cursor : Cursor} {found : tag}
    {behind : List Char} :
    ¬ (failed error cursor).Yields found behind := by
  simp [Yields, failed]

theorem yields_andThen {parsed : Parsed first} {next : first → Cursor → Parsed second}
    {found : second} {behind : List Char} :
    (parsed.andThen next).Yields found behind ↔
      ∃ value, parsed.result = .ok value ∧ (next value parsed.rest).Yields found behind := by
  cases outcome : parsed.result with
  | error error => simp [Yields, andThen, outcome]
  | ok value => simp [Yields, andThen, outcome]

theorem yields_map {parsed : Parsed first} {change : first → second} {found : second}
    {behind : List Char} :
    (parsed.map change).Yields found behind ↔
      ∃ value, parsed.Yields value behind ∧ change value = found := by
  cases outcome : parsed.result with
  | error error => simp [Yields, map, outcome, Except.map]
  | ok value =>
    simp only [Yields, map, outcome, Except.map, Except.ok.injEq]
    constructor
    · rintro ⟨changed, rest⟩
      exact ⟨value, ⟨rfl, rest⟩, changed⟩
    · rintro ⟨_, ⟨rfl, rest⟩, changed⟩
      exact ⟨changed, rest⟩

end Parsed

/-! ## Annotations -/

theorem resolveName_yields_iff {vocabulary : Vocabulary tag} {policy : AnnotationPolicy}
    {name : List Char} {place : Source.Position} {rest : Cursor} {found : tag}
    {behind : List Char} :
    (resolveName vocabulary policy (trim (String.ofList name)) place rest).Yields found behind ↔
      Denotes vocabulary policy name found ∧ rest.rest = behind := by
  cases resolved : vocabulary.resolve (trim (String.ofList name)) with
  | some known =>
    simp only [resolveName, resolved, Parsed.yields_done, and_congr_left_iff]
    intro
    constructor
    · rintro rfl
      exact .known resolved
    · intro denotes
      cases denotes with
      | known other => exact Option.some.inj (resolved.symm.trans other)
      | unknown other => simp [resolved] at other
  | none =>
    cases policy with
    | lenient =>
      simp only [resolveName, resolved, Parsed.Yields, Except.ok.injEq, and_congr_left_iff]
      intro
      constructor
      · rintro rfl
        exact .unknown resolved
      · intro denotes
        cases denotes with
        | known other => simp [resolved] at other
        | unknown _ => rfl
    | strict =>
      simp only [resolveName, resolved, Parsed.not_yields_failed, false_iff, not_and]
      intro denotes
      cases denotes with
      | known other => simp [resolved] at other

/-- What may stand before a closing delimiter, seen from where the name stops. -/
theorem pause_iff {category : Category} {between : List Char} (behind : List Char) :
    Pause between ↔ Blanks between ∧
      ∀ c ∈ (between ++ category.closing :: behind).head?, ¬ Inside category.closing c := by
  constructor
  · intro pause
    cases pause with
    | absent => simp [Inside]
    | lineFeed blank =>
      exact ⟨Text.blanks_cons.mpr ⟨by decide, blank⟩, by simp [Inside]⟩
  · rintro ⟨blank, stops⟩
    cases between with
    | nil => exact .absent
    | cons c blanks =>
      rcases Text.blanks_cons.mp blank with ⟨first, others⟩
      obtain rfl := eq_lineFeed_of_not_inside first (stops c rfl)
      exact .lineFeed others

/-- Where a closing delimiter comes behind the text of an annotation, the two are spelled ahead. -/
theorem closed_annotation {category : Category} {cursor : Cursor}
    (closed : (cursor.annotationText category.closing).next.peek.kind = category.closingKind) :
    ∃ name between,
      (cursor.annotationText category.closing).text = String.ofList name ∧
        cursor.rest = name ++ (between ++ category.closing ::
          (cursor.annotationText category.closing).next.nextToken.2.rest) ∧
        (∀ c ∈ name, Inside category.closing c) ∧ Pause between := by
  rcases cursor.annotationText_spec category.closing with ⟨name, text, whole, inside, stops⟩
  rcases (Cursor.nextToken_iff _ _ _).mp ⟨closed, rfl⟩ with
    ⟨between, covered, blank, lexeme, ahead⟩
  rcases lexeme_closing_iff.mp lexeme with rfl
  rw [ahead] at whole stops
  exact ⟨name, between, text, whole, inside, (pause_iff _).mpr ⟨blank, stops⟩⟩

/-- A name is read exactly where it is spelled together with its closing delimiter. -/
theorem parseDelimited_yields_iff {vocabulary : Vocabulary tag} {policy : AnnotationPolicy}
    {cursor : Cursor} {found : tag} {behind : List Char} :
    (parseDelimited vocabulary policy cursor).Yields found behind ↔
      ∃ name between,
        cursor.rest = name ++ (between ++ vocabulary.category.closing :: behind) ∧
          (∀ c ∈ name, Inside vocabulary.category.closing c) ∧ Pause between ∧
          Denotes vocabulary policy name found := by
  constructor
  · intro yields
    simp only [parseDelimited] at yields
    split at yields
    · next closed =>
      rcases closed_annotation closed with ⟨name, between, text, whole, inside, pause⟩
      rw [text] at yields
      rcases resolveName_yields_iff.mp yields with ⟨denotes, rfl⟩
      exact ⟨name, between, whole, inside, pause, denotes⟩
    · exact absurd yields Parsed.not_yields_failed
  · rintro ⟨name, between, whole, inside, pause, denotes⟩
    rcases (pause_iff behind).mp pause with ⟨blank, stops⟩
    rcases (Cursor.annotationText_iff _ _ _ _).mpr ⟨whole, inside, stops⟩ with ⟨text, next⟩
    have ahead : TokenAhead (between ++ vocabulary.category.closing :: behind)
        vocabulary.category.closingKind behind :=
      ⟨between, [vocabulary.category.closing], blank, lexeme_closing_iff.mpr rfl, rfl⟩
    rcases (Cursor.nextToken_iff _ _ _).mpr (next ▸ ahead) with ⟨closed, rest⟩
    simp only [parseDelimited, if_pos closed, text]
    exact resolveName_yields_iff.mpr ⟨denotes, rest⟩

/-- What is read as an annotation is spelled in front of the rest. -/
theorem parseTag_sound {vocabulary : Vocabulary tag} {policy : AnnotationPolicy}
    {cursor : Cursor} {found : tag} {behind : List Char}
    (yields : (parseTag vocabulary policy cursor).Yields found behind) :
    ∃ characters, cursor.rest = characters ++ behind ∧
      AnnotationSpelling vocabulary policy characters found := by
  unfold parseTag at yields
  split at yields
  · next opened =>
    rcases parseDelimited_yields_iff.mp yields with ⟨name, between, inner, inside, pause, denotes⟩
    rcases (Cursor.nextToken_iff _ _ _).mp ⟨opened, inner⟩ with
      ⟨before, covered, blank, lexeme, outer⟩
    rcases lexeme_opening_iff.mp lexeme with rfl
    exact ⟨_, by simpa using outer, .present blank inside pause denotes⟩
  · rcases Parsed.yields_done.mp yields with ⟨rfl, rfl⟩
    exact ⟨[], rfl, .absent⟩

/-- A spelled annotation is read, and so is its absence where none follows. -/
theorem parseTag_complete {vocabulary : Vocabulary tag} {policy : AnnotationPolicy}
    {cursor : Cursor} {found : tag} {characters behind : List Char}
    (spelling : AnnotationSpelling vocabulary policy characters found)
    (none : Unannotated vocabulary.category behind)
    (ahead : cursor.rest = characters ++ behind) :
    (parseTag vocabulary policy cursor).Yields found behind := by
  unfold parseTag
  cases spelling with
  | absent =>
    have closed : cursor.peek.kind ≠ vocabulary.category.openingKind := by
      intro opened
      exact none _ (ahead ▸ (Cursor.nextToken_iff _ _ _).mp ⟨opened, rfl⟩)
    rw [if_neg closed]
    exact Parsed.yields_done.mpr ⟨rfl, ahead⟩
  | @present before name between _ blank inside pause denotes =>
    have opening : TokenAhead cursor.rest vocabulary.category.openingKind
        (name ++ (between ++ vocabulary.category.closing :: behind)) :=
      ⟨before, [vocabulary.category.opening], blank, lexeme_opening_iff.mpr rfl, by simp [ahead]⟩
    rcases (Cursor.nextToken_iff _ _ _).mpr opening with ⟨opened, rest⟩
    rw [if_pos opened]
    exact parseDelimited_yields_iff.mpr ⟨name, between, rest, inside, pause, denotes⟩

/-! ## Strings -/

theorem parseArguments_quoted {policy : AnnotationPolicy} {cursor : Cursor} {text : String}
    (kind : cursor.peek.kind = .quoted text) :
    parseArguments policy cursor =
      (parseTag cases policy cursor.nextToken.2).andThen fun found rest =>
        (parseArguments policy rest).map (.literal text found :: ·) := by
  rw [parseArguments]
  split
  · next other quoted =>
    obtain rfl : other = text := by simpa [kind] using quoted.symm
    cases outcome : (parseTag cases policy cursor.nextToken.2).result <;>
      simp [Parsed.andThen, Parsed.map, outcome]
  · next others => exact absurd kind (others text)

theorem parseArguments_other {policy : AnnotationPolicy} {cursor : Cursor}
    (others : ∀ text, cursor.peek.kind ≠ .quoted text) :
    parseArguments policy cursor = .done [] cursor := by
  rw [parseArguments]
  split
  · next text quoted => exact absurd quoted (others text)
  · rfl

/--
The induction along the strings ahead: what holds before anything that is no string, and before a
string if it holds behind it and its annotation, holds everywhere.
-/
theorem strings_induction (policy : AnnotationPolicy) {motive : Cursor → Prop}
    (string : ∀ cursor text, cursor.peek.kind = .quoted text →
      motive (parseTag cases policy cursor.nextToken.2).rest → motive cursor)
    (other : ∀ cursor, (∀ text, cursor.peek.kind ≠ .quoted text) → motive cursor)
    (cursor : Cursor) : motive cursor := by
  induction length : cursor.rest.length using Nat.strong_induction_on generalizing cursor with
  | _ length inductionHypothesis =>
    by_cases quoted : ∃ text, cursor.peek.kind = .quoted text
    · rcases quoted with ⟨text, kind⟩
      have shorter : (parseTag cases policy cursor.nextToken.2).rest.rest.length <
          cursor.rest.length :=
        Nat.lt_of_le_of_lt (length_parseTag_le _ _ _)
          (cursor.length_nextToken_lt (by simp [kind]))
      exact string cursor text kind (inductionHypothesis _ (length ▸ shorter) _ rfl)
    · exact other cursor (not_exists.mp quoted)

/-- A string and its annotation, read one after the other, are spelled in front of the rest. -/
theorem literal_sound {policy : AnnotationPolicy} {cursor : Cursor} {text : String}
    {found : Case} {behind : List Char}
    (kind : cursor.peek.kind = .quoted text)
    (yields : (parseTag cases policy cursor.nextToken.2).Yields found behind) :
    ∃ before characters, cursor.rest = before ++ (characters ++ behind) ∧ Blanks before ∧
      LiteralSpelling policy characters (.literal text found) := by
  rcases parseTag_sound yields with ⟨tagged, inner, spelling⟩
  rcases (Cursor.nextToken_iff _ _ _).mp ⟨kind, inner⟩ with ⟨before, covered, blank, lexeme, outer⟩
  cases lexeme with
  | quoted unquoted =>
    exact ⟨before, _, by simpa using outer, blank, .quoted unquoted spelling⟩

/-- A spelled string is read together with its annotation where no annotation follows. -/
theorem literal_complete {policy : AnnotationPolicy} {cursor : Cursor} {expression : Expr}
    {before characters behind : List Char}
    (spelling : LiteralSpelling policy characters expression) (blank : Blanks before)
    (none : Unannotated .grammaticalCase behind)
    (ahead : cursor.rest = before ++ (characters ++ behind)) :
    ∃ text found, expression = .literal text found ∧ cursor.peek.kind = .quoted text ∧
      (parseTag cases policy cursor.nextToken.2).Yields found behind := by
  cases spelling with
  | @quoted text tagged found unquoted spelling =>
    have string : TokenAhead cursor.rest (.quoted (String.ofList text)) (tagged ++ behind) :=
      ⟨before, '"' :: (text ++ ['"']), blank, .quoted unquoted, by simp [ahead]⟩
    rcases (Cursor.nextToken_iff _ _ _).mpr string with ⟨kind, rest⟩
    exact ⟨String.ofList text, found, rfl, kind, parseTag_complete spelling none rest⟩

/-- The strings read are spelled in front of the rest. -/
theorem parseArguments_sound {policy : AnnotationPolicy} {cursor : Cursor}
    {arguments : List Expr} {behind : List Char}
    (yields : (parseArguments policy cursor).Yields arguments behind) :
    ∃ characters, cursor.rest = characters ++ behind ∧
      ArgumentsSpelling policy characters arguments := by
  induction cursor using strings_induction policy generalizing arguments behind with
  | string cursor text kind inductionHypothesis =>
    rw [parseArguments_quoted kind, Parsed.yields_andThen] at yields
    rcases yields with ⟨found, read, mapped⟩
    rcases Parsed.yields_map.mp mapped with ⟨arguments, others, rfl⟩
    rcases inductionHypothesis others with ⟨characters, inner, spelling⟩
    rcases literal_sound kind ⟨read, rfl⟩ with ⟨before, literal, outer, blank, first⟩
    rw [inner] at outer
    exact ⟨before ++ (literal ++ characters), by simpa using outer, .next blank first spelling⟩
  | other cursor other =>
    rw [parseArguments_other other] at yields
    rcases Parsed.yields_done.mp yields with ⟨rfl, rfl⟩
    exact ⟨[], rfl, .none⟩

/-- Spelled strings are read where only blanks follow. -/
theorem parseArguments_complete {policy : AnnotationPolicy} {cursor : Cursor}
    {characters behind : List Char} {arguments : List Expr}
    (spelling : ArgumentsSpelling policy characters arguments) (blankBehind : Blanks behind)
    (ahead : cursor.rest = characters ++ behind) :
    (parseArguments policy cursor).Yields arguments behind := by
  induction spelling generalizing cursor with
  | none =>
    have ended : TokenAhead cursor.rest .endOfInput [] := by
      rw [ahead]
      exact Source.tokenAhead_endOfInput_iff.mpr ⟨blankBehind, rfl⟩
    rcases (Cursor.nextToken_iff _ _ _).mpr ended with ⟨ended, -⟩
    rw [parseArguments_other (by simp [ended])]
    exact Parsed.yields_done.mpr ⟨rfl, ahead⟩
  | next blank literal others inductionHypothesis =>
    have none := others.unannotated .grammaticalCase blankBehind
    rcases literal_complete literal blank none (by simpa using ahead) with
      ⟨text, found, rfl, kind, read, rest⟩
    rw [parseArguments_quoted kind]
    refine Parsed.yields_andThen.mpr ⟨found, read, ?_⟩
    exact Parsed.yields_map.mpr ⟨_, inductionHypothesis rest, rfl⟩

/-! ## Expressions -/

/-- The expression read is spelled, perhaps behind blanks, in front of the rest. -/
theorem parseExpression_sound {policy : AnnotationPolicy} {cursor : Cursor}
    {expression : Expr} {behind : List Char}
    (yields : (parseExpression policy cursor).Yields expression behind) :
    ∃ before characters, cursor.rest = before ++ (characters ++ behind) ∧ Blanks before ∧
      ExpressionSpelling policy characters expression := by
  unfold parseExpression at yields
  split at yields
  · next verb kind =>
    rcases Parsed.yields_andThen.mp yields with ⟨mood, read, mapped⟩
    rcases Parsed.yields_map.mp mapped with ⟨arguments, others, rfl⟩
    rcases parseArguments_sound others with ⟨strings, last, spelling⟩
    rcases parseTag_sound ⟨read, rfl⟩ with ⟨tagged, inner, mooded⟩
    rcases (Cursor.nextToken_iff _ _ _).mp ⟨kind, inner⟩ with
      ⟨before, covered, blank, lexeme, outer⟩
    cases lexeme with
    | @identifier c letters _ letter others ends =>
      refine ⟨before, c :: letters ++ (tagged ++ strings), by simp [outer, last], blank, ?_⟩
      refine .command (by simp) ?_ mooded spelling
      simpa using And.intro letter others
  · next text kind =>
    rcases Parsed.yields_map.mp yields with ⟨found, read, rfl⟩
    rcases literal_sound kind read with ⟨before, characters, ahead, blank, spelling⟩
    exact ⟨before, characters, ahead, blank, .literal spelling⟩
  · exact absurd yields Parsed.not_yields_failed

/-- A spelled expression is read where only blanks follow. -/
theorem parseExpression_complete {policy : AnnotationPolicy} {cursor : Cursor}
    {expression : Expr} {before characters behind : List Char}
    (spelling : ExpressionSpelling policy characters expression)
    (blank : Blanks before) (blankBehind : Blanks behind)
    (ahead : cursor.rest = before ++ (characters ++ behind)) :
    (parseExpression policy cursor).Yields expression behind := by
  unfold parseExpression
  cases spelling with
  | literal spelling =>
    have none := unannotated_of_blanks .grammaticalCase blankBehind
    rcases literal_complete spelling blank none ahead with ⟨text, found, rfl, kind, read⟩
    simp only [kind]
    exact Parsed.yields_map.mpr ⟨found, read, rfl⟩
  | @command verb tagged mood strings arguments nonempty letters spelling others =>
    have none := others.unannotated .grammaticalMood blankBehind
    have ends := spelling.head_not_letter (others.head_not_letter blankBehind)
    rcases List.exists_cons_of_ne_nil nonempty with ⟨c, rest, rfl⟩
    rcases List.forall_mem_cons.mp letters with ⟨letter, letters⟩
    have named : TokenAhead cursor.rest (.identifier (String.ofList (c :: rest)))
        (tagged ++ (strings ++ behind)) :=
      ⟨before, c :: rest, blank, .identifier letter letters ends, by simp [ahead]⟩
    rcases (Cursor.nextToken_iff _ _ _).mpr named with ⟨kind, next⟩
    rcases parseTag_complete spelling none next with ⟨read, inner⟩
    simp only [kind]
    refine Parsed.yields_andThen.mpr ⟨mood, read, ?_⟩
    exact Parsed.yields_map.mpr ⟨arguments, parseArguments_complete others blankBehind inner, rfl⟩

/-! ## Lines -/

theorem parseAtEnd_yields_iff {expression found : Expr} {cursor : Cursor} {behind : List Char} :
    (parseAtEnd expression cursor).Yields found behind ↔
      expression = found ∧ cursor.rest = behind ∧ Blanks behind := by
  have ended : cursor.peek.kind = .endOfInput ↔ Blanks cursor.rest := by
    constructor
    · intro kind
      have ahead := (Cursor.nextToken_iff _ _ _).mp ⟨kind, rfl⟩
      exact (Source.tokenAhead_endOfInput_iff.mp ahead).1
    · intro blank
      have ahead := Source.tokenAhead_endOfInput_iff.mpr ⟨blank, rfl⟩
      exact ((Cursor.nextToken_iff _ _ _).mpr ahead).1
  unfold parseAtEnd
  split
  · next kind =>
    rw [Parsed.yields_done]
    constructor
    · rintro ⟨rfl, rfl⟩
      exact ⟨rfl, rfl, ended.mp kind⟩
    · rintro ⟨rfl, rfl, -⟩
      exact ⟨rfl, rfl⟩
  · next kind =>
    constructor
    · intro yields
      exact absurd yields Parsed.not_yields_failed
    · rintro ⟨rfl, rfl, blank⟩
      exact absurd (ended.mpr blank) kind

theorem parseLine_eq_ok_iff_parseRest {policy : AnnotationPolicy} {source : String}
    {expression : Expr} :
    parseLine policy source = .ok expression ↔
      (parseRest policy (Cursor.ofText source)).result = .ok expression := by
  cases outcome : (parseRest policy (Cursor.ofText source)).result <;>
    simp [parseLine, readLine, Parser.readLine, Parser.ofText, outcome, Except.mapError]

/-- A text that is read as an expression spells it as a line. -/
theorem lineSpelling_of_parseLine {policy : AnnotationPolicy} {source : String}
    {expression : Expr} (read : parseLine policy source = .ok expression) :
    LineSpelling policy source.toList expression := by
  rcases Parsed.yields_andThen.mp ⟨parseLine_eq_ok_iff_parseRest.mp read, rfl⟩ with
    ⟨found, first, last⟩
  rcases parseAtEnd_yields_iff.mp last with ⟨rfl, rest, blankBehind⟩
  rcases parseExpression_sound ⟨first, rest⟩ with ⟨before, characters, ahead, blank, spelling⟩
  have whole : source.toList = before ++ (characters ++ _) := ahead
  rw [whole]
  exact .line blank spelling blankBehind

/-- A text that spells an expression as a line is read as this expression. -/
theorem parseLine_of_lineSpelling {policy : AnnotationPolicy} {source : String}
    {expression : Expr} (spelling : LineSpelling policy source.toList expression) :
    parseLine policy source = .ok expression := by
  rw [parseLine_eq_ok_iff_parseRest]
  generalize whole : source.toList = characters at spelling
  cases spelling with
  | @line before characters _ behind blank spelling blankBehind =>
    have ahead : (Cursor.ofText source).rest = before ++ (characters ++ behind) := whole
    rcases parseExpression_complete spelling blank blankBehind ahead with ⟨read, rest⟩
    have yields : (parseRest policy (Cursor.ofText source)).Yields expression behind :=
      Parsed.yields_andThen.mpr
        ⟨expression, read, parseAtEnd_yields_iff.mpr ⟨rfl, rest, blankBehind⟩⟩
    exact yields.1

/--
The parser accepts exactly the lines of the grammar, under either policy, and builds exactly the
expression that a line spells.
-/
theorem parseLine_eq_ok_iff (policy : AnnotationPolicy) (source : String)
    (expression : Expr) :
    parseLine policy source = .ok expression ↔
      LineSpelling policy source.toList expression :=
  ⟨lineSpelling_of_parseLine, parseLine_of_lineSpelling⟩

end Concord.Parsing
