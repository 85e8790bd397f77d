import Concord.Proofs.Parsing.Policies
import Concord.Proofs.Parsing.Stages

/-!
# Readers go through the stages of a line

Each reader is followed through the stages of the characters that it passes over.  It succeeds at a
stage from which the next reader can go on, and it fails at a place which has a stage, but where the
token ahead does not fit this stage.  So a lenient reader accepts exactly the texts with a stage at
which a line can end.
-/

namespace Concord.Parsing

open Source (Cursor Inside Lexeme TokenAhead TokenKind)
open Text (Blanks isBlank trim)
open Unicode (isAlphabetic)

/-! ## Stages at a cursor -/

/-- The cursor stands behind the characters `before`, at this stage of the line from `origin` on. -/
structure Reaches (origin : Cursor) (before : List Char) (cursor : Cursor) (stage : Stage) :
    Prop where
  passes : origin.Passes before cursor
  reads : Stage.start.after? before = some stage

theorem Reaches.refl (origin : Cursor) : Reaches origin [] origin .start :=
  ⟨.refl origin, rfl⟩

theorem Reaches.trans {origin cursor next : Cursor} {before more : List Char}
    {stage later : Stage} (reaches : Reaches origin before cursor stage)
    (passes : cursor.Passes more next) (reads : stage.after? more = some later) :
    Reaches origin (before ++ more) next later := by
  refine ⟨reaches.passes.trans passes, ?_⟩
  rw [Stage.after?_append, reaches.reads, Option.bind_some, reads]

namespace Stage

/-- A token that covers these characters does not fit the stage. -/
structure Refuses (stage : Stage) (kind : TokenKind) (covered : List Char) : Prop where
  character : kind ≠ .fault .unterminatedString → ∀ c ∈ covered.head?, stage.next? c = none
  ended : kind = .endOfInput → stage.canEnd = false
  outside : kind = .fault .unterminatedString → ∀ strings, stage ≠ .text strings

/-- An annotation or its absence has been read, and nothing ahead belongs to it. -/
inductive Settled (strings : Bool) : Stage → Cursor → Prop
  | complete
    (ends : letters = true → ∀ c ∈ cursor.rest.head?, isAlphabetic c = false)
    (untagged : ∀ category ∈ tag, cursor.peek.kind ≠ category.openingKind) :
    Settled strings (.complete letters tag strings) cursor

/-- Nothing belongs to an annotation that has been closed. -/
theorem settled_closed (strings : Bool) (cursor : Cursor) :
    Settled strings (complete false none strings) cursor :=
  .complete (fun letters => by cases letters) (fun _ member => by cases member)

/-- An expression has been read, and nothing ahead belongs to it. -/
inductive Finished : Stage → Cursor → Prop
  | settled
    (settled : Settled strings stage cursor)
    (unquoted : strings = true → ∀ text, cursor.peek.kind ≠ .quoted text) :
    Finished stage cursor

/-- A line has been read, and only blanks are ahead. -/
structure Ended (stage : Stage) (cursor : Cursor) : Prop where
  canEnd : stage.canEnd = true
  blank : Blanks cursor.rest

/-! ## Tokens that do not fit -/

section Refusals

variable {category : Category} {tag : Option Category} {letters strings : Bool} {kind : TokenKind}
  {blanks covered rest : List Char} {c : Char}

theorem notBlank_of_head (lexeme : Lexeme kind covered rest) (first : c ∈ covered.head?) :
    isBlank c = false :=
  Cursor.notBlank_of_lexeme lexeme c (List.mem_head?_append_of_mem_head? first)

/-- A character that is a token by itself is the first of no other token. -/
theorem eq_of_lexeme_head {single : TokenKind} (lexeme : Lexeme kind covered rest)
    (first : c ∈ covered.head?) (alone : ∀ rest, Lexeme single [c] rest) : kind = single := by
  obtain ⟨others, rfl⟩ := List.head?_eq_some_iff.mp first
  have ahead : TokenAhead (c :: others ++ rest) kind rest :=
    ⟨[], c :: others, Text.blanks_nil, lexeme, rfl⟩
  have single : TokenAhead (c :: others ++ rest) single (others ++ rest) :=
    ⟨[], [c], Text.blanks_nil, alone _, rfl⟩
  exact (ahead.unique single).1

theorem kind_of_quote (lexeme : Lexeme kind covered rest) (first : '"' ∈ covered.head?) :
    (∃ text, kind = .quoted text) ∨ kind = .fault .unterminatedString := by
  cases lexeme with
  | quoted => exact .inl ⟨_, rfl⟩
  | unterminated => exact .inr rfl
  | identifier letter =>
    cases first
    exact absurd letter (by decide +kernel)
  | unexpected foreign =>
    cases first
    exact absurd foreign.notDelimiter (by decide)
  | _ => cases first

/-- Behind what can be a line, a token does not fit if nothing makes room for it. -/
theorem complete_refuses (lexeme : Lexeme kind covered rest) (more : kind ≠ .endOfInput)
    (ends : letters = true → ∀ c ∈ covered.head?, isAlphabetic c = false)
    (untagged : ∀ category ∈ tag, kind ≠ category.openingKind)
    (unquoted : strings = true → ∀ text, kind ≠ .quoted text) :
    (complete letters tag strings).Refuses kind covered := by
  refine ⟨fun closed c first => ?_, fun ended => absurd ended more, fun _ _ => Stage.noConfusion⟩
  have visible := notBlank_of_head lexeme first
  by_cases letter : isAlphabetic c = true
  · cases letters with
    | false => simp [next?, visible, letter]
    | true => simp [ends rfl c first] at letter
  · by_cases quote : c = '"'
    · subst quote
      rcases kind_of_quote lexeme first with ⟨text, quoted⟩ | unterminated
      · cases strings with
        | false => simp [next?, visible, letter]
        | true => exact absurd quoted (unquoted rfl text)
      · exact absurd unterminated closed
    · have foreign : tag.filter (·.opening = c) = none := by
        rw [Option.filter_eq_none_iff]
        intro category member opens
        obtain rfl := of_decide_eq_true opens
        apply untagged category member
        exact eq_of_lexeme_head lexeme first fun _ => lexeme_opening_iff.mpr rfl
      simp [next?, visible, letter, quote, foreign]

/-- A beginning with letters or a string is all that fits the start of a line. -/
theorem start_refuses (lexeme : Lexeme kind covered rest)
    (noVerb : ∀ verb, kind ≠ .identifier verb) (noString : ∀ text, kind ≠ .quoted text) :
    start.Refuses kind covered := by
  refine ⟨fun closed c first => ?_, fun _ => rfl, fun _ _ => Stage.noConfusion⟩
  have visible := notBlank_of_head lexeme first
  have notQuote : c ≠ '"' := by
    rintro rfl
    rcases kind_of_quote lexeme first with ⟨text, quoted⟩ | unterminated
    · exact noString text quoted
    · exact closed unterminated
  have ahead : TokenAhead (covered ++ rest) kind rest :=
    ⟨[], covered, Text.blanks_nil, lexeme, rfl⟩
  have notLetter : isAlphabetic c = false :=
    ahead.head_not_letter noVerb c (List.mem_head?_append_of_mem_head? first)
  simp [next?, visible, notQuote, notLetter]

/-- In or behind the name of an annotation, only its closing delimiter fits. -/
theorem unclosed_refuses (lexeme : Lexeme kind covered rest) (other : kind ≠ category.closingKind)
    (stops : ∀ c ∈ (blanks ++ (covered ++ rest)).head?, ¬ Inside category.closing c) :
    (if blanks.isEmpty then name category strings else pause category strings).Refuses
      kind covered := by
  have notClosing : ∀ c ∈ covered.head?, c ≠ category.closing := by
    rintro c first rfl
    apply other
    exact eq_of_lexeme_head lexeme first fun _ => lexeme_closing_iff.mpr rfl
  split
  · next none =>
    obtain rfl := List.isEmpty_iff.mp none
    refine ⟨fun _ c first => ?_, fun _ => rfl, fun _ _ => Stage.noConfusion⟩
    have notLineFeed : c ≠ '\n' := by
      rintro rfl
      exact absurd (notBlank_of_head lexeme first) (by decide)
    have quote : c = '"' := by
      by_contra notQuote
      have ahead : c ∈ (covered ++ rest).head? := List.mem_head?_append_of_mem_head? first
      exact stops c ahead ⟨notClosing c first, notQuote, notLineFeed⟩
    subst quote
    simp [next?, notClosing _ first]
  · refine ⟨fun _ c first => ?_, fun _ => rfl, fun _ _ => Stage.noConfusion⟩
    simp [next?, notClosing c first, notBlank_of_head lexeme first]

end Refusals

end Stage

/-! ## Readers -/

/-- A reader that began at `origin` fails with this error at a place that has a stage. -/
inductive Stuck (policy : AnnotationPolicy) (origin : Cursor) : SyntaxError → Prop
  /-- The token ahead does not fit. -/
  | token (expected : Expectation)
    (reaches : Reaches origin before cursor stage)
    (lexeme : Lexeme kind covered rest)
    (ahead : cursor.rest = covered ++ rest)
    (refuses : stage.Refuses kind covered) :
    Stuck policy origin ⟨.ofToken expected kind, cursor.position⟩
  /-- A strict reader does not know the name ahead. -/
  | name
    (strict : policy = .strict)
    (reaches : Reaches origin (before ++ [category.opening]) cursor (.name category strings))
    (ahead : cursor.rest = name ++ rest)
    (inside : ∀ c ∈ name, Inside category.closing c)
    (stops : ∀ c ∈ rest.head?, ¬ Inside category.closing c) :
    Stuck policy origin ⟨.ofName category (trim (String.ofList name)), cursor.position⟩

/-- A reader that began at `origin` succeeds where `settles` holds, or it is stuck. -/
structure Parsed.Traces (policy : AnnotationPolicy) (origin : Cursor)
    (settles : Stage → Cursor → Prop) (parsed : Parsed tag) : Prop where
  passes : ∃ passed, origin.Passes passed parsed.rest
  settled : ∀ value, parsed.result = .ok value →
    ∃ before stage, Reaches origin before parsed.rest stage ∧ settles stage parsed.rest
  stuck : ∀ error, parsed.result = .error error → Stuck policy origin error

namespace Parsed

variable {policy : AnnotationPolicy} {origin cursor : Cursor} {before : List Char} {stage : Stage}
  {settles ends : Stage → Cursor → Prop}

theorem traces_ok {value : tag} {fallbacks : List Fallback}
    (reaches : Reaches origin before cursor stage) (holds : settles stage cursor) :
    (⟨.ok value, cursor, fallbacks⟩ : Parsed tag).Traces policy origin settles :=
  ⟨⟨before, reaches.passes⟩, fun _ _ => ⟨before, stage, reaches, holds⟩,
    fun _ failed => by cases failed⟩

theorem traces_error {error : SyntaxError} {fallbacks : List Fallback} {passed : List Char}
    (passes : origin.Passes passed cursor) (stuck : Stuck policy origin error) :
    (⟨.error error, cursor, fallbacks⟩ : Parsed tag).Traces policy origin settles := by
  refine ⟨⟨passed, passes⟩, fun _ read => (by cases read), fun other same => ?_⟩
  cases same
  exact stuck

theorem Traces.weaken {parsed : Parsed tag} (traces : parsed.Traces policy origin settles)
    (weaker : ∀ stage cursor, settles stage cursor → ends stage cursor) :
    parsed.Traces policy origin ends := by
  refine ⟨traces.passes, fun value read => ?_, traces.stuck⟩
  rcases traces.settled value read with ⟨before, stage, reaches, holds⟩
  exact ⟨before, stage, reaches, weaker _ _ holds⟩

theorem Traces.andThen {parsed : Parsed first} {next : first → Cursor → Parsed second}
    (traces : parsed.Traces policy origin settles)
    (others : ∀ value before stage, Reaches origin before parsed.rest stage →
      settles stage parsed.rest → (next value parsed.rest).Traces policy origin ends) :
    (parsed.andThen next).Traces policy origin ends := by
  cases outcome : parsed.result with
  | error error =>
    rw [andThen_of_error outcome]
    rcases traces.passes with ⟨passed, passes⟩
    exact traces_error passes (traces.stuck error outcome)
  | ok value =>
    rw [andThen_of_ok outcome]
    rcases traces.settled value outcome with ⟨before, stage, reaches, holds⟩
    rcases others value before stage reaches holds with ⟨passes, settled, stuck⟩
    exact ⟨passes, settled, stuck⟩

theorem Traces.map {parsed : Parsed first} {change : first → second}
    (traces : parsed.Traces policy origin settles) :
    (parsed.map change).Traces policy origin settles := by
  cases outcome : parsed.result with
  | error error =>
    rcases traces.passes with ⟨passed, passes⟩
    simp only [Parsed.map, outcome, Except.map]
    exact traces_error passes (traces.stuck error outcome)
  | ok value =>
    rcases traces.settled value outcome with ⟨before, stage, reaches, holds⟩
    simp only [Parsed.map, outcome, Except.map]
    exact traces_ok reaches holds

end Parsed

section Readers

variable {policy : AnnotationPolicy} {origin cursor : Cursor} {before : List Char} {stage : Stage}
  {letters strings : Bool}

theorem parseDelimited_traces {vocabulary : Vocabulary tag}
    (reaches : Reaches origin (before ++ [vocabulary.category.opening]) cursor
      (.name vocabulary.category strings)) :
    (parseDelimited vocabulary policy cursor).Traces policy origin (Stage.Settled strings) := by
  rcases cursor.annotationText_spec vocabulary.category.closing with
    ⟨name, text, ahead, inside, stops⟩
  have named := reaches.trans (Cursor.passes_annotationText ahead) (Stage.after?_name inside)
  rcases (cursor.annotationText vocabulary.category.closing).next.passes_token with
    ⟨blanks, covered, blank, lexeme, skipped, passes⟩
  have stopped := stops
  rw [skipped.rest, passes.rest] at stopped
  have paused := named.trans skipped
    (Stage.after?_name_of_blanks blank fun c first =>
      stopped c (List.mem_head?_append_of_mem_head? first))
  simp only [parseDelimited]
  split
  · next closed =>
    rw [closed] at lexeme
    obtain rfl := lexeme_closing_iff.mp lexeme
    have behind := paused.trans passes (Stage.after?_closing _)
    rw [text]
    unfold resolveName
    split
    · exact Parsed.traces_ok behind (Stage.settled_closed _ _)
    · cases policy with
      | lenient => exact Parsed.traces_ok behind (Stage.settled_closed _ _)
      | strict => exact Parsed.traces_error behind.passes (.name rfl reaches ahead inside stops)
  · next unclosed =>
    apply Parsed.traces_error named.passes
    exact .token _ paused lexeme passes.rest
      (Stage.unclosed_refuses lexeme unclosed stopped)

theorem parseTag_traces {vocabulary : Vocabulary tag}
    (reaches : Reaches origin before cursor
      (.complete letters (some vocabulary.category) strings))
    (letterless : letters = true → ∀ c ∈ cursor.rest.head?, isAlphabetic c = false) :
    (parseTag vocabulary policy cursor).Traces policy origin (Stage.Settled strings) := by
  unfold parseTag
  split
  · next opened =>
    rcases cursor.passes_token with ⟨blanks, covered, blank, lexeme, skipped, passes⟩
    rw [opened] at lexeme
    obtain rfl := lexeme_opening_iff.mp lexeme
    have before := reaches.trans skipped (Stage.after?_complete_of_blanks blank)
    exact parseDelimited_traces (before.trans passes Stage.after?_opening)
  · next other =>
    apply Parsed.traces_ok reaches
    refine .complete letterless fun category member => ?_
    cases member
    exact other

/-- The strings ahead are read to the last one. -/
theorem parseArguments_traces (reaches : Reaches origin before cursor stage)
    (settled : stage.Settled true cursor) :
    (parseArguments policy cursor).Traces policy origin Stage.Finished := by
  induction cursor using strings_induction policy generalizing before stage with
  | string cursor text kind inductionHypothesis =>
    rw [parseArguments_quoted kind]
    rcases cursor.passes_token with ⟨blanks, covered, blank, lexeme, skipped, passes⟩
    rw [kind] at lexeme
    cases settled with
    | complete ends untagged =>
      have quote := reaches.trans skipped (Stage.after?_complete_of_blanks blank)
      have string := quote.trans passes (Stage.after?_quoted Stage.next?_quote_complete lexeme)
      have tag : (parseTag cases policy cursor.nextToken.2).Traces policy origin _ :=
        parseTag_traces string fun letters => by cases letters
      exact tag.andThen fun found before stage reaches settled =>
        (inductionHypothesis reaches settled).map
  | other cursor other =>
    rw [parseArguments_other other]
    exact Parsed.traces_ok reaches (.settled settled fun _ => other)

theorem parseExpression_traces (policy : AnnotationPolicy) (cursor : Cursor) :
    (parseExpression policy cursor).Traces policy cursor Stage.Finished := by
  rcases cursor.passes_token with ⟨blanks, covered, blank, lexeme, skipped, passes⟩
  have start := (Reaches.refl cursor).trans skipped (Stage.after?_start_of_blanks blank)
  unfold parseExpression
  split
  · next verb kind =>
    rw [kind] at lexeme
    have tag : (parseTag moods policy cursor.nextToken.2).Traces policy cursor _ :=
      parseTag_traces (start.trans passes (Stage.after?_identifier lexeme)) fun _ => lexeme.ends
    refine tag.andThen fun mood before stage reaches settled => ?_
    exact (parseArguments_traces reaches settled).map
  · next text kind =>
    rw [kind] at lexeme
    have tag : (parseTag cases policy cursor.nextToken.2).Traces policy cursor _ :=
      parseTag_traces (start.trans passes (Stage.after?_quoted Stage.next?_quote_start lexeme))
        fun letters => by cases letters
    refine (tag.weaken fun stage cursor settled => ?_).map
    exact .settled settled fun strings => by cases strings
  · next noVerb noString =>
    apply Parsed.traces_error (Cursor.Passes.refl cursor)
    exact .token _ start lexeme passes.rest (Stage.start_refuses lexeme noVerb noString)

/-- Behind a finished expression, the token ahead does not fit unless the line ends. -/
theorem Stage.Finished.refuses_token {blanks covered rest : List Char}
    (finished : stage.Finished cursor) (blank : Blanks blanks)
    (lexeme : Lexeme cursor.peek.kind covered rest)
    (ahead : cursor.rest = blanks ++ (covered ++ rest))
    (more : cursor.peek.kind ≠ .endOfInput) :
    ∃ later, stage.after? blanks = some later ∧ later.Refuses cursor.peek.kind covered := by
  rcases finished with ⟨⟨ends, untagged⟩, unquoted⟩
  refine ⟨_, Stage.after?_complete_of_blanks blank, ?_⟩
  refine Stage.complete_refuses lexeme more (fun goesOn c first => ?_) untagged unquoted
  rcases Bool.and_eq_true_iff.mp goesOn with ⟨letters, none⟩
  obtain rfl := List.isEmpty_iff.mp none
  apply ends letters
  rw [ahead, List.nil_append]
  exact List.mem_head?_append_of_mem_head? first

theorem parseAtEnd_traces {expression : Expr} (reaches : Reaches origin before cursor stage)
    (finished : stage.Finished cursor) :
    (parseAtEnd expression cursor).Traces policy origin Stage.Ended := by
  rcases cursor.passes_token with ⟨blanks, covered, blank, lexeme, skipped, passes⟩
  unfold parseAtEnd
  split
  · next ended =>
    have ahead := (Cursor.nextToken_iff _ _ _).mp ⟨ended, rfl⟩
    rcases finished with ⟨⟨-, -⟩, -⟩
    exact Parsed.traces_ok reaches ⟨rfl, (Source.tokenAhead_endOfInput_iff.mp ahead).1⟩
  · next more =>
    apply Parsed.traces_error reaches.passes
    rcases finished.refuses_token blank lexeme (passes.rest ▸ skipped.rest) more with
      ⟨later, goesOn, refuses⟩
    exact .token _ (reaches.trans skipped goesOn) lexeme passes.rest refuses

theorem parseRest_traces (policy : AnnotationPolicy) (cursor : Cursor) :
    (parseRest policy cursor).Traces policy cursor Stage.Ended :=
  (parseExpression_traces policy cursor).andThen fun _ _ _ => parseAtEnd_traces

end Readers

/-! ## Acceptance -/

theorem Stage.Ended.exists_after? {stage : Stage} {cursor : Cursor} (ended : stage.Ended cursor) :
    ∃ last, stage.after? cursor.rest = some last ∧ last.canEnd = true := by
  rcases ended with ⟨canEnd, blank⟩
  cases stage with
  | complete letters tag strings => exact ⟨_, Stage.after?_complete_of_blanks blank, rfl⟩
  | _ => cases canEnd

/-- Where a token does not fit, its first character stops the line. -/
theorem Stage.Refuses.next?_eq_none {stage : Stage} {kind : TokenKind}
    {covered rest others : List Char} {c : Char} (refuses : stage.Refuses kind covered)
    (lexeme : Lexeme kind covered rest) (closed : kind ≠ .fault .unterminatedString)
    (ahead : covered ++ rest = c :: others) : stage.next? c = none := by
  apply refuses.character closed
  cases first : covered with
  | cons d letters =>
    rw [first] at ahead
    exact congrArg some (List.cons.inj ahead).1
  | nil =>
    subst first
    cases lexeme
    cases ahead

/-- From a stage that a token does not fit, a line with this token cannot be brought to its end. -/
theorem Stage.Refuses.canEnd_eq_false {stage last : Stage} {kind : TokenKind}
    {covered rest : List Char} (refuses : stage.Refuses kind covered)
    (lexeme : Lexeme kind covered rest) (reads : stage.after? (covered ++ rest) = some last) :
    last.canEnd = false := by
  by_cases closed : kind = .fault .unterminatedString
  · cases lexeme with
    | unterminated unquoted =>
      rw [List.append_nil, Stage.after?_cons] at reads
      rcases Stage.next?_quote_cases (refuses.outside rfl) with stops | ⟨strings, opens⟩
      · simp [stops] at reads
      · rw [opens, Option.bind_some, Stage.after?_text unquoted] at reads
        obtain rfl := Option.some.inj reads
        rfl
    | _ => cases closed
  · cases ahead : covered ++ rest with
    | cons c others =>
      rw [ahead, Stage.after?_cons, refuses.next?_eq_none lexeme closed ahead] at reads
      cases reads
    | nil =>
      obtain ⟨rfl, rfl⟩ := List.append_eq_nil_iff.mp ahead
      cases lexeme
      obtain rfl := Option.some.inj reads
      exact refuses.ended rfl

/-- Where a lenient reader is stuck, no line is ahead. -/
theorem Stuck.canEnd_eq_false {origin : Cursor} {error : SyntaxError} {last : Stage}
    (stuck : Stuck .lenient origin error) (reads : Stage.start.after? origin.rest = some last) :
    last.canEnd = false := by
  cases stuck with
  | token expected reaches lexeme ahead refuses =>
    rw [reaches.passes.rest, Stage.after?_append, reaches.reads, Option.bind_some, ahead] at reads
    exact refuses.canEnd_eq_false lexeme reads
  | name strict => cases strict

/-- A lenient parser accepts exactly the texts which have a stage at which a line can end. -/
theorem exists_parseLine_lenient_eq_ok_iff (source : String) :
    (∃ expression, parseLine .lenient source = .ok expression) ↔
      ∃ stage, Stage.start.after? source.toList = some stage ∧ stage.canEnd = true := by
  have traces := parseRest_traces .lenient (Cursor.ofText source)
  constructor
  · rintro ⟨expression, read⟩
    rcases traces.settled _ (parseLine_eq_ok_iff_parseRest.mp read) with
      ⟨before, stage, reaches, ended⟩
    rcases ended.exists_after? with ⟨last, reads, canEnd⟩
    have whole : source.toList = before ++ _ := reaches.passes.rest
    refine ⟨last, ?_, canEnd⟩
    rw [whole, Stage.after?_append, reaches.reads, Option.bind_some, reads]
  · rintro ⟨stage, reads, canEnd⟩
    cases outcome : (parseRest .lenient (Cursor.ofText source)).result with
    | ok expression => exact ⟨expression, parseLine_eq_ok_iff_parseRest.mpr outcome⟩
    | error error =>
      have cannotEnd := (traces.stuck error outcome).canEnd_eq_false reads
      rw [canEnd] at cannotEnd
      cases cannotEnd

end Concord.Parsing
