import Concord.Proofs.Parsing.Progress

/-!
# Closed annotations

Which annotations of a text are read can be said by lines alone: those that stand behind a line and
make another line of it.  In the stages of a line this shows as an annotation that is pending from
its opening delimiter on and is closed by the first closing delimiter of its category.  So an
annotation is known from the place where it is closed, and runs of characters in which none is
closed are told from their stages.
-/

namespace Concord.Parsing

open Source (Cursor Inside Lexeme TokenKind)
open Text (Blanks isBlank trim)
open Unicode (isAlphabetic)

/-- An annotation from its opening to its closing delimiter, behind the characters `before`. -/
structure ClosedTag where
  before : List Char
  category : Category
  name : List Char
  /-- What stands between the name and the closing delimiter. -/
  between : List Char

namespace ClosedTag

def written (tag : ClosedTag) : List Char :=
  tag.category.opening :: (tag.name ++ (tag.between ++ [tag.category.closing]))

/-- Everything in front of the closing delimiter. -/
def opened (tag : ClosedTag) : List Char :=
  tag.before ++ tag.category.opening :: (tag.name ++ tag.between)

/-- The fallback for the annotation, if its name is unknown. -/
def fallback (tag : ClosedTag) : Fallback :=
  ⟨tag.category, trim (String.ofList tag.name)⟩

/-- In this text, the annotation stands behind a line and makes another line of it. -/
structure ReadIn (tag : ClosedTag) (source : List Char) : Prop where
  ahead : tag.before ++ tag.written <+: source
  inside : ∀ c ∈ tag.name, Inside tag.category.closing c
  pause : Pause tag.between
  opens : ∃ expression, parseLine .lenient (String.ofList tag.before) = .ok expression
  closes : ∃ expression,
    parseLine .lenient (String.ofList (tag.before ++ tag.written)) = .ok expression

theorem before_append_written (tag : ClosedTag) :
    tag.before ++ tag.written = tag.opened ++ [tag.category.closing] := by
  simp [written, opened]

end ClosedTag

theorem Category.opening_injective {category other : Category}
    (same : category.opening = other.opening) : category = other := by
  cases category <;> cases other <;> first | rfl | exact absurd same (by decide)

theorem Category.isBlank_closing (category : Category) : isBlank category.closing = false := by
  cases category <;> decide

theorem Category.isAlphabetic_closing (category : Category) :
    isAlphabetic category.closing = false := by
  cases category <;> decide +kernel

/-- A name stops at the pause behind it. -/
theorem Pause.stops {category : Category} {between : List Char} (pause : Pause between) :
    ∀ c ∈ between.head?, ¬ Inside category.closing c := by
  intro c first
  exact ((pause_iff []).mp pause).2 c (List.mem_head?_append_of_mem_head? first)

/-- Where a name ends is known from the name and the pause together. -/
theorem Pause.split_unique {category : Category} {name otherName between other : List Char}
    (pause : Pause between) (inside : ∀ c ∈ name, Inside category.closing c)
    (otherPause : Pause other) (otherInside : ∀ c ∈ otherName, Inside category.closing c)
    (same : name ++ between = otherName ++ other) : name = otherName ∧ between = other := by
  let test (c : Char) : Bool := decide (Inside category.closing c)
  have first : (name ++ between).takeWhile test = name ∧
      (name ++ between).dropWhile test = between :=
    Text.split_iff.mpr ⟨rfl, fun c member => decide_eq_true (inside c member),
      fun c head => decide_eq_false (pause.stops c head)⟩
  have second : (name ++ between).takeWhile test = otherName ∧
      (name ++ between).dropWhile test = other :=
    Text.split_iff.mpr ⟨same, fun c member => decide_eq_true (otherInside c member),
      fun c head => decide_eq_false (otherPause.stops c head)⟩
  exact ⟨first.1.symm.trans second.1, first.2.symm.trans second.2⟩

theorem Pause.blanks {between : List Char} (pause : Pause between) : Blanks between := by
  cases pause with
  | absent => exact Text.blanks_nil
  | lineFeed blank => exact Text.blanks_cons.mpr ⟨by decide, blank⟩

namespace Stage

/-- The annotation that has been opened and is not yet closed. -/
def pending? : Stage → Option Category
  | name category _ => some category
  | pause category _ => some category
  | _ => none

theorem exists_next?_closing {stage : Stage} {category : Category}
    (pending : stage.pending? = some category) :
    ∃ strings, stage.next? category.closing = some (complete false none strings) := by
  cases stage with
  | name other strings =>
    obtain rfl := Option.some.inj pending
    exact ⟨strings, next?_closing_name⟩
  | pause other strings =>
    obtain rfl := Option.some.inj pending
    exact ⟨strings, next?_closing_pause⟩
  | _ => cases pending

/-- Where an opening delimiter fits, it opens an annotation. -/
theorem tag_eq_of_next?_opening {letters strings : Bool} {tag : Option Category}
    {category : Category} {next : Stage}
    (opens : (complete letters tag strings).next? category.opening = some next) :
    tag = some category := by
  have other : isBlank category.opening = false ∧ isAlphabetic category.opening = false ∧
      category.opening ≠ '"' := by
    cases category <;> decide +kernel
  rcases other with ⟨visible, noLetter, noQuote⟩
  simp only [next?, visible, noLetter, noQuote, Bool.false_eq_true, if_false] at opens
  rcases Option.map_eq_some_iff.mp opens with ⟨found, filtered, -⟩
  rcases Option.filter_eq_some_iff.mp filtered with ⟨rfl, same⟩
  rw [Category.opening_injective (of_decide_eq_true same)]

/-- Up to its closing delimiter, an annotation is pending. -/
theorem exists_pending {category : Category} {strings : Bool}
    {written between inner more : List Char}
    (inside : ∀ c ∈ written, Inside category.closing c) (paused : Pause between)
    (split : written ++ between = inner ++ more) :
    ∃ stage, (name category strings).after? inner = some stage ∧
      stage.pending? = some category := by
  rcases List.append_eq_append_iff.mp split with ⟨blanks, rfl, rfl⟩ | ⟨others, rfl, -⟩
  · have blank : Blanks blanks := fun c member => paused.blanks c (List.mem_append_left _ member)
    have stops : ∀ c ∈ blanks.head?, ¬ Inside category.closing c := fun c first =>
      paused.stops c (List.mem_head?_append_of_mem_head? first)
    rw [after?_append, after?_name inside, Option.bind_some, after?_name_of_blanks blank stops]
    cases blanks <;> exact ⟨_, rfl, rfl⟩
  · exact ⟨_, after?_name fun c member => inside c (List.mem_append_left _ member), rfl⟩

/-! ## Runs in which no annotation is closed -/

/-- None of these characters closes an annotation. -/
def Shuns (stage : Stage) (characters : List Char) : Prop :=
  ∀ front category back, characters = front ++ category.closing :: back →
    ∀ later, stage.after? front = some later → later.pending? ≠ some category

section Shuns

variable {stage : Stage} {strings : Bool} {category : Category} {kind : TokenKind}
  {characters others covered rest : List Char}

theorem shuns_of_not_mem (absent : ∀ category : Category, category.closing ∉ characters) :
    stage.Shuns characters := by
  rintro front category back rfl
  exact absurd (by simp) (absent category)

theorem Shuns.append (first : stage.Shuns characters)
    (second : ∀ later, stage.after? characters = some later → later.Shuns others) :
    stage.Shuns (characters ++ others) := by
  intro front category back split later reads
  rcases List.append_eq_append_iff.mp split with ⟨more, rfl, behind⟩ | ⟨more, rfl, behind⟩
  · rcases exists_after?_of_append reads with ⟨between, readsFirst, readsMore⟩
    exact second between readsFirst more category back behind later readsMore
  · cases more with
    | nil =>
      rw [List.append_nil] at second
      exact second later reads [] category back behind.symm later rfl
    | cons c more =>
      obtain rfl := (List.cons.inj behind).1
      exact first front category more rfl later reads

theorem shuns_of_blanks (blank : Blanks characters) : stage.Shuns characters :=
  shuns_of_not_mem fun category member => by
    simpa [category.isBlank_closing] using blank _ member

theorem shuns_identifier {verb : String} (lexeme : Lexeme (.identifier verb) covered rest) :
    stage.Shuns covered := by
  cases lexeme with
  | identifier letter letters _ =>
    refine shuns_of_not_mem fun category member => ?_
    have alphabetic : isAlphabetic category.closing = true := by
      rcases List.mem_cons.mp member with same | among
      · exact same ▸ letter
      · exact letters _ among
    rw [category.isAlphabetic_closing] at alphabetic
    cases alphabetic

theorem shuns_quote : stage.Shuns ['"'] :=
  shuns_of_not_mem fun category member => by
    cases category <;> simp [Category.closing] at member

theorem shuns_text (unquoted : '"' ∉ characters) : (text strings).Shuns characters := by
  rintro front category back rfl later reads
  rw [after?_text fun member => unquoted (List.mem_append_left _ member)] at reads
  obtain rfl := Option.some.inj reads
  simp [pending?]

theorem shuns_quoted {content : String} (opens : stage.next? '"' = some (text strings))
    (lexeme : Lexeme (.quoted content) covered rest) : stage.Shuns covered := by
  cases lexeme with
  | quoted unquoted =>
    refine shuns_quote.append fun later reads => ?_
    rw [after?_cons, opens] at reads
    obtain rfl := Option.some.inj reads
    exact (shuns_text unquoted).append fun _ _ => shuns_quote

/-- What a stage refuses closes nothing, and neither does anything behind it. -/
theorem Refuses.shuns (refuses : stage.Refuses kind covered) (lexeme : Lexeme kind covered rest) :
    stage.Shuns (covered ++ rest) := by
  by_cases closed : kind = .fault .unterminatedString
  · subst closed
    cases lexeme with
    | unterminated unquoted =>
      rw [List.append_nil]
      refine shuns_quote.append fun later reads => ?_
      rcases next?_quote_cases (refuses.outside rfl) with stops | ⟨strings, opens⟩
      · simp [after?_cons, stops] at reads
      · rw [after?_cons, opens] at reads
        obtain rfl := Option.some.inj reads
        exact shuns_text unquoted
  · intro front category back split later reads pending
    cases front with
    | nil =>
      obtain rfl := Option.some.inj reads
      rcases exists_next?_closing pending with ⟨strings, closes⟩
      rw [refuses.next?_eq_none lexeme closed split] at closes
      cases closes
    | cons c front =>
      rw [after?_cons, refuses.next?_eq_none lexeme closed split] at reads
      cases reads

/-- A name closes nothing, whatever the other category is closed by. -/
theorem shuns_name (inside : ∀ c ∈ characters, Inside category.closing c) :
    (name category strings).Shuns characters := by
  rintro front other back rfl later reads pending
  rw [after?_name fun c member => inside c (List.mem_append_left _ member)] at reads
  obtain rfl := Option.some.inj reads
  obtain rfl := Option.some.inj pending
  exact (inside category.closing (by simp)).1 rfl

/-- An opening delimiter closes nothing. -/
theorem shuns_opening : stage.Shuns [category.opening] :=
  shuns_of_not_mem fun other member => by
    cases category <;> cases other <;> simp [Category.closing, Category.opening] at member

end Shuns

end Stage

/-! ## Places of annotations -/

namespace ClosedTag

variable {tag other : ClosedTag} {source : List Char} {letters strings : Bool}

section Stages

variable
  (reads : Stage.start.after? tag.before = some (.complete letters (some tag.category) strings))
  (inside : ∀ c ∈ tag.name, Inside tag.category.closing c)
  (paused : Pause tag.between)

include reads inside paused

/-- Anywhere between its delimiters, the annotation is pending. -/
theorem exists_stage_within {inner more : List Char}
    (split : tag.name ++ tag.between = inner ++ more) :
    ∃ stage, Stage.start.after? (tag.before ++ tag.category.opening :: inner) = some stage ∧
      stage.pending? = some tag.category := by
  rw [List.append_cons, Stage.after?_append, Stage.after?_append, reads, Option.bind_some,
    Stage.after?_opening]
  exact Stage.exists_pending inside paused split

theorem readIn_of_stage {rest : List Char}
    (whole : source = tag.opened ++ tag.category.closing :: rest) : tag.ReadIn source := by
  rcases exists_stage_within reads inside paused (List.append_nil _).symm with
    ⟨stage, within, pending⟩
  rcases Stage.exists_next?_closing pending with ⟨strings, closes⟩
  refine ⟨⟨rest, by simp [whole, before_append_written]⟩, inside, paused,
    (exists_parseLine_lenient_eq_ok_iff _).mpr ?_, (exists_parseLine_lenient_eq_ok_iff _).mpr ?_⟩
  · rw [String.toList_ofList]
    exact ⟨_, reads, rfl⟩
  · rw [String.toList_ofList, before_append_written, Stage.after?_append, opened, within,
      Option.bind_some, Stage.after?_cons, closes]
    exact ⟨_, rfl, rfl⟩

end Stages

theorem ReadIn.exists_stage (read : tag.ReadIn source) :
    ∃ letters strings,
      Stage.start.after? tag.before = some (.complete letters (some tag.category) strings) := by
  rcases (exists_parseLine_lenient_eq_ok_iff _).mp read.opens with ⟨stage, reads, canEnd⟩
  rcases (exists_parseLine_lenient_eq_ok_iff _).mp read.closes with ⟨last, goesOn, -⟩
  rw [String.toList_ofList] at reads goesOn
  rw [Stage.after?_append, reads, Option.bind_some, written, Stage.after?_cons] at goesOn
  rcases Option.bind_eq_some_iff.mp goesOn with ⟨next, opens, -⟩
  cases stage with
  | complete letters found strings =>
    obtain rfl := Stage.tag_eq_of_next?_opening opens
    exact ⟨letters, strings, reads⟩
  | _ => cases canEnd

theorem ReadIn.exists_stage_opened (read : tag.ReadIn source) :
    ∃ stage, Stage.start.after? tag.opened = some stage ∧ stage.pending? = some tag.category := by
  rcases read.exists_stage with ⟨letters, strings, reads⟩
  exact exists_stage_within reads read.inside read.pause (List.append_nil _).symm

/-- No annotation begins inside of another. -/
theorem ReadIn.length_before_le (read : tag.ReadIn source) (otherRead : other.ReadIn source)
    (same : tag.opened = other.opened) : tag.before.length ≤ other.before.length := by
  -- Otherwise the one would begin where the other is pending, and no line ends there.
  rcases List.append_eq_append_iff.mp same with ⟨gap, behind, -⟩ | ⟨gap, behind, split⟩
  · simp [behind]
  · cases gap with
    | nil => simp [behind]
    | cons c inner =>
      obtain ⟨rfl, cut⟩ := List.cons.inj split
      rcases read.exists_stage with ⟨letters, strings, reads⟩
      rcases otherRead.exists_stage with ⟨otherLetters, otherStrings, otherReads⟩
      rcases exists_stage_within otherReads otherRead.inside otherRead.pause cut with
        ⟨stage, within, pending⟩
      rw [behind, within] at reads
      obtain rfl := Option.some.inj reads
      cases pending

/-- An annotation is known from the place of its closing delimiter. -/
theorem ReadIn.unique (read : tag.ReadIn source) (otherRead : other.ReadIn source)
    (same : tag.opened = other.opened) : tag = other := by
  have lengths := Nat.le_antisymm (read.length_before_le otherRead same)
    (otherRead.length_before_le read same.symm)
  rcases List.append_inj same lengths with ⟨before, behind⟩
  rcases List.cons.inj behind with ⟨opening, inner⟩
  have category := Category.opening_injective opening
  have otherInside : ∀ c ∈ other.name, Inside tag.category.closing c := by
    rw [category]
    exact otherRead.inside
  rcases read.pause.split_unique read.inside otherRead.pause otherInside inner with ⟨name, between⟩
  cases tag
  cases other
  rw [ClosedTag.mk.injEq]
  exact ⟨before, category, name, between⟩

theorem ReadIn.opened_prefix (read : tag.ReadIn source) :
    tag.opened ++ [tag.category.closing] <+: source :=
  tag.before_append_written ▸ read.ahead

theorem ReadIn.length_opened_lt (read : tag.ReadIn source) : tag.opened.length < source.length := by
  have bound := read.opened_prefix.length_le
  rw [List.length_append, List.length_singleton] at bound
  exact bound

/-- An annotation that is closed in a run of characters cuts the run in two. -/
theorem ReadIn.exists_split {passed run rest : List Char} (read : tag.ReadIn source)
    (whole : source = passed ++ (run ++ rest))
    (late : source.length ≤ tag.opened.length + (run ++ rest).length)
    (early : tag.opened.length + rest.length < source.length) :
    ∃ front back, tag.opened = passed ++ front ∧ run = front ++ tag.category.closing :: back := by
  have lengths := congrArg List.length whole
  simp only [List.length_append] at lengths late
  have passedFirst : passed <+: tag.opened :=
    List.prefix_of_prefix_length_le ⟨_, whole.symm⟩
      ((List.prefix_append _ _).trans read.opened_prefix) (by omega)
  have runLast : tag.opened ++ [tag.category.closing] <+: passed ++ run :=
    List.prefix_of_prefix_length_le read.opened_prefix ⟨rest, by simp [whole]⟩
      (by simp only [List.length_append, List.length_singleton]; omega)
  rcases passedFirst with ⟨front, opened⟩
  rcases runLast with ⟨back, split⟩
  rw [← opened, List.append_assoc, List.append_assoc] at split
  exact ⟨front, back, opened.symm, (List.append_cancel_left split).symm⟩

end ClosedTag

end Concord.Parsing
