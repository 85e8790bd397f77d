import Concord.Proofs.Parsing.Recognition
import Concord.Proofs.Source.Passage

/-!
# Lenient and strict readers

The two policies differ only in what becomes of an annotation with an unknown name.  So a strict
reader does what a lenient one does, up to the place where the lenient one takes its first fallback;
there it stops.  What stands in front of this place is a line by itself, which both policies read
alike.
-/

namespace Concord.Parsing

open Source (Cursor Inside Lexeme Position)
open Text (Blanks trim)
open Unicode (isAlphabetic)

namespace Parsed

theorem andThen_of_ok {parsed : Parsed first} {value : first}
    (read : parsed.result = .ok value) (next : first → Cursor → Parsed second) :
    parsed.andThen next =
      ⟨(next value parsed.rest).result, (next value parsed.rest).rest,
        parsed.fallbacks ++ (next value parsed.rest).fallbacks⟩ := by
  simp only [andThen, read]

theorem andThen_of_error {parsed : Parsed first} {error : SyntaxError}
    (failed : parsed.result = .error error) (next : first → Cursor → Parsed second) :
    parsed.andThen next = ⟨.error error, parsed.rest, parsed.fallbacks⟩ := by
  simp only [andThen, failed]

end Parsed

/-! ## The place of a fallback -/

/-- The category has no such name. -/
def Category.Lacks : Category → String → Prop
  | grammaticalCase, name => Case.ofName? name = none
  | grammaticalMood, name => Mood.ofName? name = none

/-- An annotation as it is written for which this fallback is taken. -/
def Fallback.Written (fallback : Fallback) (characters : List Char) : Prop :=
  fallback.category.Lacks fallback.name ∧
    ∃ name between,
      characters = fallback.category.opening :: (name ++ (between ++ [fallback.category.closing])) ∧
      (∀ c ∈ name, Inside fallback.category.closing c) ∧ Pause between ∧
      fallback.name = trim (String.ofList name)

theorem SyntaxFault.message_ofName (category : Category) (name : String) :
    (ofName category name).message =
      if name = "" then "missing " ++ category.word ++ " name"
      else "unknown " ++ category.word ++ " name '" ++ name ++ "'" := by
  unfold ofName
  split <;> rfl

/-- The error of a strict reader at an annotation that stands behind these characters. -/
def Fallback.error (fallback : Fallback) (start : Position) (before : List Char) : SyntaxError :=
  ⟨.ofName fallback.category fallback.name,
    start.after (before ++ [fallback.category.opening])⟩

/--
A strict reader beside a lenient one at the same cursor.  Either the lenient one takes no fallback
and they do the same, or the strict one stops at the annotation with the first fallback.  Then
`opens` holds of what is in front of this annotation and of the annotation itself.
-/
inductive StopsAtFallback (cursor : Cursor) (opens : List Char → List Char → Prop)
    (strict lenient : Parsed tag) : Prop
  | same (silent : lenient.fallbacks = []) (equal : strict = lenient)
  | stops {first : Fallback} {others : List Fallback} {before written behind : List Char}
    (taken : lenient.fallbacks = first :: others)
    (ahead : cursor.rest = before ++ (written ++ behind))
    (spelled : first.Written written)
    (opened : opens before written)
    (failed : strict.result = .error (first.error cursor.position before))
    (silent : strict.fallbacks = [])

namespace StopsAtFallback

variable {cursor next : Cursor} {opens inner : List Char → List Char → Prop}
  {strict lenient : Parsed tag}

theorem fallbacks_strict (reads : StopsAtFallback cursor opens strict lenient) :
    strict.fallbacks = [] := by
  cases reads with
  | same silent equal => exact equal ▸ silent
  | stops taken ahead spelled opened failed silent => exact silent

/-- What holds of readers at a later cursor holds from an earlier one. -/
theorem shift {passed : List Char} (reads : StopsAtFallback next inner strict lenient)
    (passes : cursor.Passes passed next)
    (outer : ∀ before written, inner before written → opens (passed ++ before) written) :
    StopsAtFallback cursor opens strict lenient := by
  cases reads with
  | same silent equal => exact .same silent equal
  | @stops first _ before _ behind taken ahead spelled opened failed silent =>
    refine .stops taken (by rw [passes.rest, ahead, List.append_assoc]) spelled
      (outer _ _ opened) ?_ silent
    rw [failed, Fallback.error, Fallback.error, passes.position, List.append_assoc,
      Position.after_append _ passed]

theorem map {change : tag → other} (reads : StopsAtFallback cursor opens strict lenient) :
    StopsAtFallback cursor opens (strict.map change) (lenient.map change) := by
  cases reads with
  | same silent equal => exact .same silent (by rw [equal])
  | stops taken ahead spelled opened failed silent =>
    refine .stops taken ahead spelled opened ?_ silent
    rw [Parsed.map, failed]
    rfl

theorem andThen {nextStrict nextLenient : tag → Cursor → Parsed other}
    (reads : StopsAtFallback cursor opens strict lenient)
    (others : ∀ value, strict.result = .ok value →
      StopsAtFallback cursor opens (nextStrict value strict.rest)
        (nextLenient value strict.rest)) :
    StopsAtFallback cursor opens (strict.andThen nextStrict) (lenient.andThen nextLenient) := by
  cases reads with
  | same silent equal =>
    subst equal
    cases outcome : strict.result with
    | error error =>
      rw [Parsed.andThen_of_error outcome, Parsed.andThen_of_error outcome]
      exact .same silent rfl
    | ok value =>
      rw [Parsed.andThen_of_ok outcome, Parsed.andThen_of_ok outcome, silent]
      cases others value outcome with
      | same stillSilent equal => exact .same stillSilent (by rw [equal])
      | stops taken ahead spelled opened failed stillSilent =>
        exact .stops taken ahead spelled opened failed stillSilent
  | stops taken ahead spelled opened failed silent =>
    rw [Parsed.andThen_of_error failed]
    cases outcome : lenient.result with
    | error error =>
      rw [Parsed.andThen_of_error outcome]
      exact .stops taken ahead spelled opened rfl silent
    | ok value =>
      rw [Parsed.andThen_of_ok outcome, taken]
      exact .stops rfl ahead spelled opened rfl silent

end StopsAtFallback

/-! ## Readers -/

section Readers

variable {policy : AnnotationPolicy} {cursor : Cursor}

theorem parseDelimited_passes (vocabulary : Vocabulary tag) :
    ∃ passed, cursor.Passes passed (parseDelimited vocabulary policy cursor).rest := by
  rcases cursor.annotationText_spec vocabulary.category.closing with ⟨name, -, ahead, -, -⟩
  have inside := Cursor.passes_annotationText ahead
  simp only [parseDelimited]
  split
  · rcases Cursor.nextToken_spec _ with ⟨blanks, covered, -, -, closing, -, -⟩
    rw [rest_resolveName]
    exact ⟨_, inside.trans closing⟩
  · exact ⟨name, inside⟩

theorem parseTag_passes (vocabulary : Vocabulary tag) :
    ∃ passed, cursor.Passes passed (parseTag vocabulary policy cursor).rest := by
  unfold parseTag
  split
  · rcases cursor.nextToken_spec with ⟨blanks, covered, -, -, opening, -, -⟩
    rcases parseDelimited_passes vocabulary with ⟨passed, inner⟩
    exact ⟨_, opening.trans inner⟩
  · exact ⟨[], .refl cursor⟩

/-- Blanks and an annotation behind them, which only a lenient reader makes something of. -/
def OpensTag (vocabulary : Vocabulary tag) (before written : List Char) : Prop :=
  Blanks before ∧
    AnnotationSpelling vocabulary .lenient (before ++ written) vocabulary.fallback

theorem parseTag_stopsAtFallback {vocabulary : Vocabulary tag}
    (lacks : ∀ name, vocabulary.resolve name = none → vocabulary.category.Lacks name) :
    StopsAtFallback cursor (OpensTag vocabulary) (parseTag vocabulary .strict cursor)
      (parseTag vocabulary .lenient cursor) := by
  unfold parseTag
  split
  · next opened =>
    rcases cursor.nextToken_spec with ⟨blanks, covered, blank, lexeme, opening, -, -⟩
    rw [opened] at lexeme
    obtain rfl := lexeme_opening_iff.mp lexeme
    simp only [parseDelimited]
    split
    · next closed =>
      rcases closed_annotation closed with ⟨name, between, text, whole, inside, pause⟩
      cases resolved : vocabulary.resolve (trim (String.ofList name)) with
      | some known =>
        simp only [text, resolveName, resolved]
        exact .same rfl rfl
      | none =>
        simp only [text, resolveName, resolved]
        have ahead := opening.rest
        rw [whole] at ahead
        refine .stops rfl (by simpa using ahead)
          ⟨lacks _ resolved, name, between, rfl, inside, pause, rfl⟩
          ⟨blank, .present blank inside pause (.unknown resolved)⟩ ?_ rfl
        rw [Fallback.error, ← opening.position]
        rfl
    · exact .same rfl rfl
  · exact .same rfl rfl

theorem lacks_of_resolve_case (name : String) (unresolved : cases.resolve name = none) :
    cases.category.Lacks name :=
  unresolved

theorem lacks_of_resolve_mood (name : String) (unresolved : moods.resolve name = none) :
    moods.category.Lacks name :=
  unresolved

/-- What a strict reader accepts as an annotation is spelled in what it passes over. -/
theorem parseTag_spelled {vocabulary : Vocabulary tag} {found : tag}
    (read : (parseTag vocabulary policy cursor).result = .ok found) :
    ∃ characters, AnnotationSpelling vocabulary policy characters found ∧
      cursor.Passes characters (parseTag vocabulary policy cursor).rest := by
  rcases parseTag_sound ⟨read, rfl⟩ with ⟨characters, ahead, spelling⟩
  rcases parseTag_passes vocabulary with ⟨passed, passes⟩
  exact ⟨characters, spelling, passes.eq_of_rest ahead ▸ passes⟩

/-- A literal is spelled in these characters under every policy, whatever its annotation. -/
def Quotes (quoted : List Char) (text : String) : Prop :=
  ∀ policy tagged found, AnnotationSpelling cases policy tagged found →
    LiteralSpelling policy (quoted ++ tagged) (.literal text found)

theorem quoted_passes {text : String} (kind : cursor.peek.kind = .quoted text) :
    ∃ before quoted, Blanks before ∧ cursor.Passes (before ++ quoted) cursor.nextToken.2 ∧
      Quotes quoted text := by
  rcases cursor.nextToken_spec with ⟨blanks, covered, blank, lexeme, passes, -, -⟩
  rw [kind] at lexeme
  cases lexeme with
  | quoted unquoted =>
    refine ⟨blanks, _, blank, passes, fun policy tagged found spelling => ?_⟩
    simpa using LiteralSpelling.quoted unquoted spelling

theorem identifier_passes {verb : String} (kind : cursor.peek.kind = .identifier verb) :
    ∃ before letters, Blanks before ∧ cursor.Passes (before ++ letters) cursor.nextToken.2 ∧
      verb = String.ofList letters ∧ letters ≠ [] ∧ ∀ c ∈ letters, isAlphabetic c = true := by
  rcases cursor.nextToken_spec with ⟨blanks, covered, blank, lexeme, passes, -, -⟩
  rw [kind] at lexeme
  cases lexeme with
  | identifier letter letters ends =>
    exact ⟨blanks, _, blank, passes, rfl, by simp, List.forall_mem_cons.mpr ⟨letter, letters⟩⟩

theorem AnnotationSpelling.lenient_of_strict {vocabulary : Vocabulary tag}
    {characters : List Char} {found : tag}
    (spelling : AnnotationSpelling vocabulary .strict characters found) :
    AnnotationSpelling vocabulary .lenient characters found := by
  cases spelling with
  | absent => exact .absent
  | present blank inside pause denotes =>
    cases denotes with
    | known resolved => exact .present blank inside pause (.known resolved)

/-- Strings and blanks, and an annotation behind them of the last string. -/
def OpensStringTag (before written : List Char) : Prop :=
  (∃ characters blanks arguments, before = characters ++ blanks ∧
    ArgumentsSpelling .strict characters arguments ∧ Blanks blanks) ∧
  ∃ arguments, ArgumentsSpelling .lenient (before ++ written) arguments

/-- A line by itself, and an annotation behind it with which it is a line again. -/
def OpensLineTag (before written : List Char) : Prop :=
  (∃ expression, LineSpelling .strict before expression) ∧
    ∃ expression, LineSpelling .lenient (before ++ written) expression

section Opening

variable {before quoted letters tagged written middle : List Char} {text : String}

theorem opensStringTag_first (blank : Blanks before) (quotes : Quotes quoted text)
    (opens : OpensTag cases middle written) :
    OpensStringTag (before ++ quoted ++ middle) written := by
  constructor
  · have string := ArgumentsSpelling.next blank (quotes .strict [] _ .absent) .none
    exact ⟨_, middle, _, by simp, string, opens.1⟩
  · have spelling := ArgumentsSpelling.next blank (quotes _ _ _ opens.2) .none
    exact ⟨_, by simpa using spelling⟩

theorem opensStringTag_next {found : Case} (blank : Blanks before) (quotes : Quotes quoted text)
    (spelling : AnnotationSpelling cases .strict tagged found)
    (opens : OpensStringTag middle written) :
    OpensStringTag (before ++ quoted ++ tagged ++ middle) written := by
  rcases opens with ⟨⟨characters, blanks, arguments, rfl, strings, behind⟩, _, lenient⟩
  constructor
  · have all := ArgumentsSpelling.next blank (quotes _ _ _ spelling) strings
    exact ⟨_, blanks, _, by simp, all, behind⟩
  · have all := ArgumentsSpelling.next blank (quotes _ _ _ spelling.lenient_of_strict) lenient
    exact ⟨_, by simpa using all⟩

theorem opensLineTag_mood (blank : Blanks before) (nonempty : letters ≠ [])
    (alphabetic : ∀ c ∈ letters, isAlphabetic c = true) (opens : OpensTag moods middle written) :
    OpensLineTag (before ++ letters ++ middle) written := by
  constructor
  · have bare : AnnotationSpelling moods .strict [] moods.fallback := .absent
    have line := LineSpelling.line blank (.command nonempty alphabetic bare .none) opens.1
    exact ⟨_, by simpa using line⟩
  · have line := LineSpelling.line blank (.command nonempty alphabetic opens.2 .none)
      Text.blanks_nil
    exact ⟨_, by simpa using line⟩

theorem opensLineTag_string {mood : Mood} (blank : Blanks before) (nonempty : letters ≠ [])
    (alphabetic : ∀ c ∈ letters, isAlphabetic c = true)
    (spelling : AnnotationSpelling moods .strict tagged mood)
    (opens : OpensStringTag middle written) :
    OpensLineTag (before ++ letters ++ tagged ++ middle) written := by
  rcases opens with ⟨⟨characters, blanks, arguments, rfl, strings, behind⟩, _, lenient⟩
  constructor
  · have line := LineSpelling.line blank (.command nonempty alphabetic spelling strings) behind
    exact ⟨_, by simpa using line⟩
  · have line := LineSpelling.line blank
      (.command nonempty alphabetic spelling.lenient_of_strict lenient) Text.blanks_nil
    exact ⟨_, by simpa using line⟩

theorem opensLineTag_literal (blank : Blanks before) (quotes : Quotes quoted text)
    (opens : OpensTag cases middle written) :
    OpensLineTag (before ++ quoted ++ middle) written := by
  constructor
  · have bare : AnnotationSpelling cases .strict [] cases.fallback := .absent
    have line := LineSpelling.line blank (.literal (quotes _ _ _ bare)) opens.1
    exact ⟨_, by simpa using line⟩
  · have line := LineSpelling.line blank (.literal (quotes _ _ _ opens.2)) Text.blanks_nil
    exact ⟨_, by simpa using line⟩

end Opening

theorem parseArguments_stopsAtFallback :
    StopsAtFallback cursor OpensStringTag (parseArguments .strict cursor)
      (parseArguments .lenient cursor) := by
  induction cursor using strings_induction .strict with
  | string cursor text kind inductionHypothesis =>
    rw [parseArguments_quoted kind, parseArguments_quoted kind]
    rcases quoted_passes kind with ⟨before, quoted, blank, passes, quotes⟩
    have tag : StopsAtFallback cursor.nextToken.2 (OpensTag cases) _ _ :=
      parseTag_stopsAtFallback lacks_of_resolve_case
    have first := tag.shift passes fun _ _ opens => opensStringTag_first blank quotes opens
    refine first.andThen fun found read => ?_
    rcases parseTag_spelled read with ⟨tagged, spelling, tagPasses⟩
    exact inductionHypothesis.map.shift (passes.trans tagPasses)
      fun _ _ opens => opensStringTag_next blank quotes spelling opens
  | other cursor other =>
    rw [parseArguments_other other, parseArguments_other other]
    exact .same rfl rfl

theorem parseExpression_stopsAtFallback :
    StopsAtFallback cursor OpensLineTag (parseExpression .strict cursor)
      (parseExpression .lenient cursor) := by
  unfold parseExpression
  split
  · next verb kind =>
    rcases identifier_passes kind with ⟨before, letters, blank, passes, rfl, nonempty, alphabetic⟩
    have tag : StopsAtFallback cursor.nextToken.2 (OpensTag moods) _ _ :=
      parseTag_stopsAtFallback lacks_of_resolve_mood
    have first := tag.shift passes
      fun _ _ opens => opensLineTag_mood blank nonempty alphabetic opens
    refine first.andThen fun mood read => ?_
    rcases parseTag_spelled read with ⟨tagged, spelling, tagPasses⟩
    exact parseArguments_stopsAtFallback.map.shift (passes.trans tagPasses)
      fun _ _ opens => opensLineTag_string blank nonempty alphabetic spelling opens
  · next text kind =>
    rcases quoted_passes kind with ⟨before, quoted, blank, passes, quotes⟩
    have tag : StopsAtFallback cursor.nextToken.2 (OpensTag cases) _ _ :=
      parseTag_stopsAtFallback lacks_of_resolve_case
    exact (tag.shift passes fun _ _ opens => opensLineTag_literal blank quotes opens).map
  · exact .same rfl rfl

theorem parseRest_stopsAtFallback :
    StopsAtFallback cursor OpensLineTag (parseRest .strict cursor)
      (parseRest .lenient cursor) := by
  refine parseExpression_stopsAtFallback.andThen fun expression _ => ?_
  unfold parseAtEnd
  split
  · exact .same rfl rfl
  · exact .same rfl rfl

end Readers

/--
A strict reading of a text never takes a fallback, and is the lenient one if that takes none.  If
the lenient one does, the strict one fails, right behind the opening delimiter of the annotation for
which the first fallback is taken.  In front of this annotation stands a line by itself, of which it
makes another line.  So what is read strictly is read alike under either policy, and what fails
leniently fails under either.
-/
theorem readLine_strict_of_lenient (source : String) :
    (readLine .strict source).fallbacks = [] ∧
      ((readLine .lenient source).fallbacks = [] →
        (readLine .strict source).result = (readLine .lenient source).result) ∧
      (∀ first others, (readLine .lenient source).fallbacks = first :: others →
        ∃ before written behind,
          source.toList = before ++ (written ++ behind) ∧ first.Written written ∧
          (∃ expression, LineSpelling .strict before expression) ∧
          (∃ expression, LineSpelling .lenient (before ++ written) expression) ∧
          let place := Position.start.after (before ++ [first.category.opening])
          let message :=
            if first.name = "" then "missing " ++ first.category.word ++ " name"
            else "unknown " ++ first.category.word ++ " name '" ++ first.name ++ "'"
          (readLine .strict source).result = .error (.ofKind (.parse message place.line place.column
            (SyntaxError.sourceLine source place)))) ∧
      (∀ expression, (readLine .strict source).result = .ok expression →
        (readLine .lenient source).result = .ok expression) ∧
      ∀ error, (readLine .lenient source).result = .error error →
        ∃ other, (readLine .strict source).result = .error other := by
  have reads : StopsAtFallback (Cursor.ofText source) OpensLineTag _ _ :=
    parseRest_stopsAtFallback
  have silent : (readLine .strict source).fallbacks = [] := reads.fallbacks_strict
  cases reads with
  | same none equal =>
    have alike : readLine .strict source = readLine .lenient source := by
      simp only [readLine, Parser.readLine, Parser.ofText, equal]
    have taken : (readLine .lenient source).fallbacks = [] := none
    rw [alike]
    refine ⟨taken, fun _ => rfl, fun first others some => ?_, fun _ read => read,
      fun error failed => ⟨error, failed⟩⟩
    rw [taken] at some
    cases some
  | @stops first others before written behind taken ahead spelled opened failed =>
    have stopped : (readLine .strict source).result =
        .error ((first.error .start before).toError source) := by
      simp only [readLine, Parser.readLine, Parser.ofText, failed, Except.mapError]
      rfl
    have fallbacks : (readLine .lenient source).fallbacks = first :: others := taken
    refine ⟨silent, fun none => ?_, fun other more same => ?_, fun expression read => ?_,
      fun _ _ => ⟨_, stopped⟩⟩
    · rw [fallbacks] at none
      cases none
    · obtain ⟨rfl, rfl⟩ := List.cons.inj (fallbacks.symm.trans same)
      refine ⟨before, written, behind, ahead, spelled, opened.1, opened.2, stopped.trans ?_⟩
      simp only [SyntaxError.toError, Fallback.error, SyntaxFault.message_ofName]
    · rw [stopped] at read
      cases read

/-- A line with two fallbacks, which then breaks off for another reason. -/
theorem readLine_strict_of_two_fallbacks :
    let source := "git \"ev\" [x ] \"ev\" [\n] <"
    (readLine .lenient source).fallbacks =
        [⟨.grammaticalCase, "x"⟩, ⟨.grammaticalCase, ""⟩] ∧
      ∃ before, before <+: source.toList ∧
        let place := Position.start.after (before ++ ['['])
        (readLine .strict source).result = .error (.ofKind
          (.parse "unknown case name 'x'" place.line place.column
            (SyntaxError.sourceLine source place))) := by
  intro source
  have taken : (readLine .lenient source).fallbacks =
      [⟨.grammaticalCase, "x"⟩, ⟨.grammaticalCase, ""⟩] := by
    decide +kernel
  rcases (readLine_strict_of_lenient source).2.2.1 _ _ taken with
    ⟨before, written, behind, ahead, -, -, -, stopped⟩
  exact ⟨taken, before, ⟨written ++ behind, ahead.symm⟩, stopped⟩

end Concord.Parsing
