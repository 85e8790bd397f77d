import Concord.Proofs.Parsing.ClosedTags

/-!
# Fallbacks

A lenient reader takes a fallback for every annotation that it reads to its closing delimiter and
whose name it does not know, whatever becomes of the line behind it.  Along each run of characters
in which no annotation is closed nothing is noted, and at a closing delimiter at most one fallback
is; where a reader fails, no annotation is closed any more.
-/

namespace Concord.Parsing

open Source (Cursor Inside Lexeme Position TokenKind)
open Text (Blanks trim)

/-! ## What is noted between two places -/

/-- The annotation is read in this text, and its name is unknown. -/
def ClosedTag.UnknownIn (tag : ClosedTag) (source : List Char) : Prop :=
  tag.ReadIn source ∧ tag.category.Lacks tag.fallback.name

/--
These are the fallbacks for the annotations that are closed between two places of a text.  Both
places are given by the number of characters behind them.
-/
def Noted (source : List Char) (start stop : Nat) (fallbacks : List Fallback) : Prop :=
  ∃ tags : List ClosedTag, fallbacks = tags.map ClosedTag.fallback ∧
    tags.Pairwise (fun tag later => tag.opened.length < later.opened.length) ∧
    ∀ tag, tag ∈ tags ↔ tag.UnknownIn source ∧ source.length ≤ tag.opened.length + start ∧
      tag.opened.length + stop < source.length

section Noted

variable {source passed run rest : List Char} {start middle stop : Nat}
  {fallbacks others : List Fallback} {stage : Stage} {tag : ClosedTag}

theorem Noted.append (first : Noted source start middle fallbacks)
    (second : Noted source middle stop others) (before : middle ≤ start) (behind : stop ≤ middle) :
    Noted source start stop (fallbacks ++ others) := by
  rcases first with ⟨tags, rfl, ordered, members⟩
  rcases second with ⟨later, rfl, laterOrdered, laterMembers⟩
  refine ⟨tags ++ later, List.map_append.symm,
    List.pairwise_append.mpr ⟨ordered, laterOrdered, fun tag among next amongLater => ?_⟩,
    fun tag => ?_⟩
  · rcases (members tag).mp among with ⟨-, -, early⟩
    rcases (laterMembers next).mp amongLater with ⟨-, late, -⟩
    omega
  · rw [List.mem_append, members, laterMembers]
    constructor
    · rintro (⟨unknown, late, early⟩ | ⟨unknown, late, early⟩)
      · exact ⟨unknown, late, by omega⟩
      · exact ⟨unknown, by omega, early⟩
    · rintro ⟨unknown, late, early⟩
      rcases Nat.lt_or_ge (tag.opened.length + middle) source.length with earlier | later
      · exact .inl ⟨unknown, late, earlier⟩
      · exact .inr ⟨unknown, later, early⟩

theorem noted_nil (none : ∀ tag : ClosedTag, tag.UnknownIn source →
      source.length ≤ tag.opened.length + start → source.length ≤ tag.opened.length + stop) :
    Noted source start stop [] := by
  refine ⟨[], rfl, .nil, fun tag => ?_⟩
  simp only [List.not_mem_nil, false_iff, not_and, Nat.not_lt]
  exact none tag

theorem noted_nil_self : Noted source start start [] :=
  noted_nil fun _ _ late => late

/-- Along characters that close no annotation, nothing is noted. -/
theorem noted_of_shuns (whole : source = passed ++ (run ++ rest))
    (reads : Stage.start.after? passed = some stage) (shuns : stage.Shuns run) :
    Noted source (run ++ rest).length rest.length [] := by
  refine noted_nil fun tag unknown late => ?_
  by_contra early
  rcases unknown.1.exists_split whole late (Nat.lt_of_not_le early) with
    ⟨front, back, opened, split⟩
  rcases unknown.1.exists_stage_opened with ⟨later, readsOpened, pending⟩
  rw [opened, Stage.after?_append, reads, Option.bind_some] at readsOpened
  exact shuns front tag.category back split later readsOpened pending

/-- At a closing delimiter, only the annotation that it closes is. -/
theorem ClosedTag.ReadIn.eq_of_place {other : ClosedTag} (read : tag.ReadIn source)
    (whole : source = tag.opened ++ tag.category.closing :: rest) (otherRead : other.ReadIn source)
    (late : source.length ≤ other.opened.length + (rest.length + 1))
    (early : other.opened.length + rest.length < source.length) : other = tag := by
  have lengths := congrArg List.length whole
  simp only [List.length_append, List.length_cons] at lengths
  have within : other.opened <+: tag.opened :=
    List.prefix_of_prefix_length_le ((List.prefix_append _ _).trans otherRead.opened_prefix)
      ⟨_, whole.symm⟩ (by omega)
  exact otherRead.unique read (within.eq_of_length (by omega))

theorem noted_unknown (unknown : tag.UnknownIn source)
    (whole : source = tag.opened ++ tag.category.closing :: rest) :
    Noted source (rest.length + 1) rest.length [tag.fallback] := by
  have lengths := congrArg List.length whole
  simp only [List.length_append, List.length_cons] at lengths
  refine ⟨[tag], rfl, List.pairwise_singleton _ _, fun other => ?_⟩
  rw [List.mem_singleton]
  constructor
  · rintro rfl
    exact ⟨unknown, by omega, by omega⟩
  · rintro ⟨otherUnknown, late, early⟩
    exact unknown.1.eq_of_place whole otherUnknown.1 late early

theorem noted_known (read : tag.ReadIn source) (known : ¬ tag.category.Lacks tag.fallback.name)
    (whole : source = tag.opened ++ tag.category.closing :: rest) :
    Noted source (rest.length + 1) rest.length [] := by
  refine noted_nil fun other otherUnknown late => ?_
  by_contra early
  obtain rfl := read.eq_of_place whole otherUnknown.1 late (Nat.lt_of_not_le early)
  exact known otherUnknown.2

end Noted

/-! ## Readers -/

theorem Reaches.noted_of_shuns {origin cursor next : Cursor} {before run : List Char}
    {stage : Stage} (reaches : Reaches origin before cursor stage)
    (passes : cursor.Passes run next) (shuns : stage.Shuns run) :
    Noted origin.rest cursor.rest.length next.rest.length [] := by
  have whole : origin.rest = before ++ (run ++ next.rest) := passes.rest ▸ reaches.passes.rest
  rw [passes.rest]
  exact Parsing.noted_of_shuns whole reaches.reads shuns

/-- Where nothing ahead closes an annotation, nothing is noted any more. -/
theorem Reaches.noted_to_end {origin cursor : Cursor} {before : List Char} {stage : Stage}
    (reaches : Reaches origin before cursor stage) (shuns : stage.Shuns cursor.rest) :
    Noted origin.rest cursor.rest.length 0 [] := by
  have whole : origin.rest = before ++ (cursor.rest ++ []) := by
    rw [List.append_nil, reaches.passes.rest]
  simpa using Parsing.noted_of_shuns whole reaches.reads shuns

/-- Where the token ahead does not fit, nothing is noted any more. -/
theorem Reaches.noted_to_end_of_refuses {origin cursor token next : Cursor}
    {before blanks covered : List Char} {stage later : Stage} {kind : TokenKind}
    (reaches : Reaches origin before cursor stage) (skipped : cursor.Passes blanks token)
    (passes : token.Passes covered next) (blank : Blanks blanks)
    (lexeme : Lexeme kind covered next.rest) (goesOn : stage.after? blanks = some later)
    (refuses : later.Refuses kind covered) : Noted origin.rest cursor.rest.length 0 [] := by
  apply reaches.noted_to_end
  rw [skipped.rest, passes.rest]
  refine (Stage.shuns_of_blanks blank).append fun stage reads => ?_
  obtain rfl := Option.some.inj (goesOn.symm.trans reads)
  exact refuses.shuns lexeme

/--
A reader notes the annotations that are closed from the cursor to where it stops, and all those
ahead of the cursor if it fails.
-/
structure Parsed.Notes (source : List Char) (cursor : Cursor) (parsed : Parsed tag) : Prop where
  shorter : parsed.rest.rest.length ≤ cursor.rest.length
  read : ∀ value, parsed.result = .ok value →
    Noted source cursor.rest.length parsed.rest.rest.length parsed.fallbacks
  failed : ∀ error, parsed.result = .error error →
    Noted source cursor.rest.length 0 parsed.fallbacks

namespace Parsed.Notes

variable {source : List Char} {cursor next : Cursor}

theorem andThen {parsed : Parsed first} {next : first → Cursor → Parsed second}
    (notes : parsed.Notes source cursor)
    (others : ∀ value, parsed.result = .ok value →
      (next value parsed.rest).Notes source parsed.rest) :
    (parsed.andThen next).Notes source cursor := by
  cases outcome : parsed.result with
  | error error =>
    rw [andThen_of_error outcome]
    exact ⟨notes.shorter, fun _ read => (by cases read), fun _ _ => notes.failed error outcome⟩
  | ok value =>
    rw [andThen_of_ok outcome]
    have front := notes.read value outcome
    have behind := others value outcome
    exact ⟨behind.shorter.trans notes.shorter,
      fun last read => front.append (behind.read last read) notes.shorter behind.shorter,
      fun error failed => front.append (behind.failed error failed) notes.shorter (Nat.zero_le _)⟩

theorem map {parsed : Parsed first} {change : first → second} (notes : parsed.Notes source cursor) :
    (parsed.map change).Notes source cursor := by
  cases outcome : parsed.result with
  | error error =>
    simp only [Parsed.map, outcome, Except.map]
    exact ⟨notes.shorter, fun _ read => (by cases read), fun _ _ => notes.failed error outcome⟩
  | ok value =>
    simp only [Parsed.map, outcome, Except.map]
    exact ⟨notes.shorter, fun _ _ => notes.read value outcome, fun _ failed => (by cases failed)⟩

theorem done (value : tag) (cursor : Cursor) : (Parsed.done value cursor).Notes source cursor :=
  ⟨Nat.le_refl _, fun _ _ => noted_nil_self, fun _ failed => by cases failed⟩

theorem fails (error : SyntaxError) (stops : Noted source cursor.rest.length 0 []) :
    (Parsed.failed error cursor : Parsed tag).Notes source cursor :=
  ⟨Nat.le_refl _, fun _ read => (by cases read), fun _ _ => stops⟩

/-- What is noted behind characters that close no annotation is noted from in front of them. -/
theorem behind {origin : Cursor} {before run : List Char} {stage : Stage} {parsed : Parsed tag}
    (notes : parsed.Notes origin.rest next) (reaches : Reaches origin before cursor stage)
    (passes : cursor.Passes run next) (shuns : stage.Shuns run) :
    parsed.Notes origin.rest cursor := by
  have quiet := reaches.noted_of_shuns passes shuns
  have shorter : next.rest.length ≤ cursor.rest.length := by
    rw [passes.rest, List.length_append]
    exact Nat.le_add_left _ _
  exact ⟨notes.shorter.trans shorter,
    fun value read => quiet.append (notes.read value read) shorter notes.shorter,
    fun error failed => quiet.append (notes.failed error failed) shorter (Nat.zero_le _)⟩

end Parsed.Notes

section Readers

variable {origin cursor next : Cursor} {before : List Char} {stage : Stage} {letters strings : Bool}

/-- A name is noted where its annotation is closed, if it is unknown. -/
theorem resolveName_notes {vocabulary : Vocabulary tag} {source name between : List Char}
    {place : Position}
    (lacks : ∀ name, vocabulary.resolve name = none ↔ vocabulary.category.Lacks name)
    (read : ClosedTag.ReadIn ⟨before, vocabulary.category, name, between⟩ source)
    (whole : source = ClosedTag.opened ⟨before, vocabulary.category, name, between⟩ ++
      vocabulary.category.closing :: next.rest)
    (passes : cursor.Passes [vocabulary.category.closing] next) :
    (resolveName vocabulary .lenient (trim (String.ofList name)) place next).Notes
      source cursor := by
  have length : cursor.rest.length = next.rest.length + 1 := by
    simp [passes.rest]
  cases resolved : vocabulary.resolve (trim (String.ofList name)) with
  | some known =>
    have noted := noted_known read
      (fun lacking => by cases resolved.symm.trans ((lacks _).mpr lacking)) whole
    simp only [resolveName, resolved]
    exact ⟨length ▸ Nat.le_succ _, fun _ _ => length ▸ noted, fun _ failed => by cases failed⟩
  | none =>
    have noted := noted_unknown ⟨read, (lacks _).mp resolved⟩ whole
    simp only [resolveName, resolved]
    exact ⟨length ▸ Nat.le_succ _, fun _ _ => length ▸ noted, fun _ failed => by cases failed⟩

theorem parseDelimited_notes {vocabulary : Vocabulary tag}
    (lacks : ∀ name, vocabulary.resolve name = none ↔ vocabulary.category.Lacks name)
    (reaches : Reaches origin before cursor
      (.complete letters (some vocabulary.category) strings))
    (passes : cursor.Passes [vocabulary.category.opening] next) :
    (parseDelimited vocabulary .lenient next).Notes origin.rest cursor := by
  rcases next.annotationText_spec vocabulary.category.closing with
    ⟨name, text, ahead, inside, stops⟩
  have passesName := Cursor.passes_annotationText ahead
  have opened := reaches.trans passes Stage.after?_opening
  have named := opened.trans passesName (Stage.after?_name inside)
  rcases (next.annotationText vocabulary.category.closing).next.passes_token with
    ⟨blanks, covered, blank, lexeme, skipped, token⟩
  rw [skipped.rest, token.rest] at stops
  -- Only behind the name it shows whether the annotation is closed.
  have behindName : (parseDelimited vocabulary .lenient next).Notes origin.rest
      (next.annotationText vocabulary.category.closing).next := by
    simp only [parseDelimited]
    split
    · next closed =>
      rw [closed] at lexeme
      obtain rfl := lexeme_closing_iff.mp lexeme
      have pause := (pause_iff _).mpr ⟨blank, stops⟩
      have whole : origin.rest = ClosedTag.opened ⟨before, vocabulary.category, name, blanks⟩ ++
          vocabulary.category.closing ::
            (next.annotationText vocabulary.category.closing).next.nextToken.2.rest := by
        simp [reaches.passes.rest, passes.rest, ahead, skipped.rest, token.rest, ClosedTag.opened]
      have read : ClosedTag.ReadIn ⟨before, vocabulary.category, name, blanks⟩ origin.rest :=
        ClosedTag.readIn_of_stage reaches.reads inside pause whole
      rw [text]
      exact (resolveName_notes lacks read whole token).behind named skipped
        (Stage.shuns_of_blanks blank)
    · next unclosed =>
      have stopsAtBlanks : ∀ c ∈ blanks.head?, ¬ Inside vocabulary.category.closing c :=
        fun c first => stops c (List.mem_head?_append_of_mem_head? first)
      exact .fails _ (named.noted_to_end_of_refuses skipped token blank lexeme
        (Stage.after?_name_of_blanks blank stopsAtBlanks)
        (Stage.unclosed_refuses lexeme unclosed stops))
  have behindOpening := behindName.behind opened passesName (Stage.shuns_name inside)
  exact behindOpening.behind reaches passes Stage.shuns_opening

theorem parseTag_notes {vocabulary : Vocabulary tag}
    (lacks : ∀ name, vocabulary.resolve name = none ↔ vocabulary.category.Lacks name)
    (reaches : Reaches origin before cursor
      (.complete letters (some vocabulary.category) strings)) :
    (parseTag vocabulary .lenient cursor).Notes origin.rest cursor := by
  unfold parseTag
  split
  · next opened =>
    rcases cursor.passes_token with ⟨blanks, covered, blank, lexeme, skipped, passes⟩
    rw [opened] at lexeme
    obtain rfl := lexeme_opening_iff.mp lexeme
    have atOpening := reaches.trans skipped (Stage.after?_complete_of_blanks blank)
    exact (parseDelimited_notes lacks atOpening passes).behind reaches skipped
      (Stage.shuns_of_blanks blank)
  · exact .done _ cursor

theorem parseArguments_notes (reaches : Reaches origin before cursor stage)
    (settled : stage.Settled true cursor) :
    (parseArguments .lenient cursor).Notes origin.rest cursor := by
  induction cursor using strings_induction .lenient generalizing before stage with
  | string cursor text kind inductionHypothesis =>
    rw [parseArguments_quoted kind]
    rcases cursor.passes_token with ⟨blanks, covered, blank, lexeme, skipped, passes⟩
    rw [kind] at lexeme
    cases settled with
    | complete ends untagged =>
      have quote := reaches.trans skipped (Stage.after?_complete_of_blanks blank)
      have string := quote.trans passes (Stage.after?_quoted Stage.next?_quote_complete lexeme)
      have tag : (parseTag cases .lenient cursor.nextToken.2).Notes origin.rest _ :=
        parseTag_notes (fun _ => Iff.rfl) string
      have traces : (parseTag cases .lenient cursor.nextToken.2).Traces .lenient origin _ :=
        parseTag_traces string fun letters => by cases letters
      refine Parsed.Notes.behind (.behind (tag.andThen fun found read => ?_) quote passes
        (Stage.shuns_quoted Stage.next?_quote_complete lexeme)) reaches skipped
        (Stage.shuns_of_blanks blank)
      rcases traces.settled found read with ⟨before, stage, reaches, settled⟩
      exact (inductionHypothesis reaches settled).map
  | other cursor other =>
    rw [parseArguments_other other]
    exact .done [] cursor

theorem parseExpression_notes (cursor : Cursor) :
    (parseExpression .lenient cursor).Notes cursor.rest cursor := by
  rcases cursor.passes_token with ⟨blanks, covered, blank, lexeme, skipped, passes⟩
  have origin := Reaches.refl cursor
  have blanksRead := Stage.after?_start_of_blanks blank
  have start := origin.trans skipped blanksRead
  unfold parseExpression
  split
  · next verb kind =>
    rw [kind] at lexeme
    have verbRead := start.trans passes (Stage.after?_identifier lexeme)
    have tag : (parseTag moods .lenient cursor.nextToken.2).Notes cursor.rest _ :=
      parseTag_notes (fun _ => Iff.rfl) verbRead
    have traces : (parseTag moods .lenient cursor.nextToken.2).Traces .lenient cursor _ :=
      parseTag_traces verbRead fun _ => lexeme.ends
    refine Parsed.Notes.behind (.behind (tag.andThen fun mood read => ?_) start passes
      (Stage.shuns_identifier lexeme)) origin skipped (Stage.shuns_of_blanks blank)
    rcases traces.settled mood read with ⟨before, stage, reaches, settled⟩
    exact (parseArguments_notes reaches settled).map
  · next text kind =>
    rw [kind] at lexeme
    have string := start.trans passes (Stage.after?_quoted Stage.next?_quote_start lexeme)
    have tag : (parseTag cases .lenient cursor.nextToken.2).Notes cursor.rest _ :=
      parseTag_notes (fun _ => Iff.rfl) string
    exact (tag.map.behind start passes (Stage.shuns_quoted Stage.next?_quote_start lexeme)).behind
      origin skipped (Stage.shuns_of_blanks blank)
  · next noVerb noString =>
    have refuses := Stage.start_refuses lexeme noVerb noString
    exact .fails _ (origin.noted_to_end_of_refuses skipped passes blank lexeme blanksRead refuses)

/-- Behind a finished expression, nothing is noted any more. -/
theorem Reaches.noted_of_finished (reaches : Reaches origin before cursor stage)
    (finished : stage.Finished cursor) : Noted origin.rest cursor.rest.length 0 [] := by
  rcases cursor.passes_token with ⟨blanks, covered, blank, lexeme, skipped, passes⟩
  by_cases ended : cursor.peek.kind = .endOfInput
  · have none := (Cursor.nextToken_iff _ _ _).mp ⟨ended, rfl⟩
    exact reaches.noted_to_end (Stage.shuns_of_blanks (Source.tokenAhead_endOfInput_iff.mp none).1)
  · rcases finished.refuses_token blank lexeme (passes.rest ▸ skipped.rest) ended with
      ⟨later, goesOn, refuses⟩
    exact reaches.noted_to_end_of_refuses skipped passes blank lexeme goesOn refuses

theorem noted_parseRest (cursor : Cursor) :
    Noted cursor.rest cursor.rest.length 0 (parseRest .lenient cursor).fallbacks := by
  have notes := parseExpression_notes cursor
  cases outcome : (parseExpression .lenient cursor).result with
  | error error =>
    rw [parseRest, Parsed.andThen_of_error outcome]
    exact notes.failed error outcome
  | ok expression =>
    rcases (parseExpression_traces .lenient cursor).settled expression outcome with
      ⟨before, stage, reaches, finished⟩
    have silent :
        (parseAtEnd expression (parseExpression .lenient cursor).rest).fallbacks = [] := by
      unfold parseAtEnd
      split <;> rfl
    rw [parseRest, Parsed.andThen_of_ok outcome, silent]
    exact (notes.read expression outcome).append (reaches.noted_of_finished finished)
      notes.shorter (Nat.zero_le _)

end Readers

/--
The annotations of a text for which a fallback is taken: none by a strict reader, and by a lenient
one those which it reads and whose names are unknown, in the order in which they are closed.
-/
def FallsBackAt : AnnotationPolicy → List Char → List ClosedTag → Prop
  | .strict, _, tags => tags = []
  | .lenient, source, tags =>
    tags.Pairwise (fun tag later => tag.opened.length < later.opened.length) ∧
      ∀ tag, tag ∈ tags ↔ tag.UnknownIn source

theorem exists_fallsBackAt (policy : AnnotationPolicy) (source : String) :
    ∃ tags, (readLine policy source).fallbacks = tags.map ClosedTag.fallback ∧
      FallsBackAt policy source.toList tags := by
  cases policy with
  | strict =>
    have reads : StopsAtFallback (Cursor.ofText source) OpensLineTag _ _ :=
      parseRest_stopsAtFallback
    exact ⟨[], reads.fallbacks_strict, rfl⟩
  | lenient =>
    rcases noted_parseRest (Cursor.ofText source) with ⟨tags, fallbacks, ordered, members⟩
    refine ⟨tags, fallbacks, ordered, fun tag => (members tag).trans ?_⟩
    constructor
    · rintro ⟨unknown, -, -⟩
      exact unknown
    · intro unknown
      exact ⟨unknown, Nat.le_add_left _ _, unknown.1.length_opened_lt⟩

end Concord.Parsing
