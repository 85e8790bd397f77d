import Concord.Proofs.Parsing.Spelling

/-!
# The stages of a line

While a line is read character by character, little of what has been read bears on what may come
next.  This is the stage of the line: whether it is inside a string or the name of an annotation, and
otherwise whether letters, an annotation or strings may follow.  From every stage a line can be
brought to its end, so that a text is the beginning of a line as long as it has a stage.
-/

namespace Concord.Parsing

open Source (Inside Lexeme)
open Text (Blanks isBlank)
open Unicode (isAlphabetic)

/-- How far a line has been read. -/
inductive Stage where
  | start
  /-- Inside a string; strings may follow it only in a command. -/
  | text (strings : Bool)
  /-- Where the line may end, or go on with letters of the verb, an annotation, or strings. -/
  | complete (letters : Bool) (tag : Option Category) (strings : Bool)
  /-- In the name of an annotation. -/
  | name (category : Category) (strings : Bool)
  /-- In the blanks behind the name of an annotation, which begin with a line feed. -/
  | pause (category : Category) (strings : Bool)

namespace Stage

/-- The stage behind one more character, if the line can go on with it. -/
def next? (c : Char) : Stage → Option Stage
  | start =>
    if isBlank c then some start
    else if c = '"' then some (text false)
    else if isAlphabetic c then some (complete true (some .grammaticalMood) true)
    else none
  | text strings =>
    if c = '"' then some (complete false (some .grammaticalCase) strings) else some (text strings)
  | complete letters tag strings =>
    if isBlank c then some (complete false tag strings)
    else if isAlphabetic c then if letters then some (complete true tag strings) else none
    else if c = '"' then if strings then some (text true) else none
    else (tag.filter (·.opening = c)).map (name · strings)
  | name category strings =>
    if c = category.closing then some (complete false none strings)
    else if c = '"' then none
    else if c = '\n' then some (pause category strings)
    else some (name category strings)
  | pause category strings =>
    if isBlank c then some (pause category strings)
    else if c = category.closing then some (complete false none strings)
    else none

/-- The stage behind further characters, if the line can go on with them. -/
def after? (stage : Stage) (characters : List Char) : Option Stage :=
  characters.foldlM (fun stage c => stage.next? c) stage

/-- Whether the line can end. -/
def canEnd : Stage → Bool
  | complete .. => true
  | _ => false

@[simp]
theorem after?_nil (stage : Stage) : stage.after? [] = some stage :=
  rfl

theorem after?_cons (stage : Stage) (c : Char) (characters : List Char) :
    stage.after? (c :: characters) = (stage.next? c).bind (·.after? characters) :=
  rfl

theorem after?_append (stage : Stage) (first second : List Char) :
    stage.after? (first ++ second) = (stage.after? first).bind (·.after? second) :=
  List.foldlM_append

/-- What can go on cannot have broken off before. -/
theorem exists_after?_of_append {stage last : Stage} {first second : List Char}
    (whole : stage.after? (first ++ second) = some last) :
    ∃ between, stage.after? first = some between ∧ between.after? second = some last := by
  rw [after?_append] at whole
  exact Option.bind_eq_some_iff.mp whole

theorem after?_of_forall_next? {stage : Stage} {characters : List Char}
    (stays : ∀ c ∈ characters, stage.next? c = some stage) :
    stage.after? characters = some stage := by
  induction characters with
  | nil => rfl
  | cons c characters inductionHypothesis =>
    rcases List.forall_mem_cons.mp stays with ⟨first, others⟩
    rw [after?_cons, first, Option.bind_some, inductionHypothesis others]

/-! ## Runs of characters -/

section Runs

variable {characters : List Char} {category : Category} {tag : Option Category}
  {letters strings : Bool}

theorem after?_start_of_blanks (blank : Blanks characters) :
    start.after? characters = some start := by
  apply after?_of_forall_next?
  intro c member
  exact if_pos (blank c member)

theorem after?_pause_of_blanks (blank : Blanks characters) :
    (pause category strings).after? characters = some (pause category strings) := by
  apply after?_of_forall_next?
  intro c member
  exact if_pos (blank c member)

/-- Behind a blank, the verb does not go on. -/
theorem after?_complete_of_blanks (blank : Blanks characters) :
    (complete letters tag strings).after? characters =
      some (complete (letters && characters.isEmpty) tag strings) := by
  cases characters with
  | nil => simp
  | cons c characters =>
    rcases Text.blanks_cons.mp blank with ⟨first, others⟩
    have behind : (complete false tag strings).after? characters =
        some (complete false tag strings) :=
      after?_of_forall_next? fun c member => if_pos (others c member)
    rw [after?_cons, next?, if_pos first, Option.bind_some, behind]
    simp

theorem after?_complete_of_letters (alphabetic : ∀ c ∈ characters, isAlphabetic c = true) :
    (complete true tag strings).after? characters = some (complete true tag strings) := by
  apply after?_of_forall_next?
  intro c member
  have letter := alphabetic c member
  simp [next?, letter, Text.isBlank_eq_false_of_isAlphabetic letter]

theorem after?_text (unquoted : '"' ∉ characters) :
    (text strings).after? characters = some (text strings) := by
  apply after?_of_forall_next?
  intro c member
  exact if_neg (ne_of_mem_of_not_mem member unquoted)

theorem after?_name (inside : ∀ c ∈ characters, Inside category.closing c) :
    (name category strings).after? characters = some (name category strings) := by
  apply after?_of_forall_next?
  intro c member
  rcases inside c member with ⟨notClosing, notQuote, notLineFeed⟩
  simp [next?, notClosing, notQuote, notLineFeed]

/-- The blanks behind a name are a pause, if there are any. -/
theorem after?_name_of_blanks (blank : Blanks characters)
    (stops : ∀ c ∈ characters.head?, ¬ Inside category.closing c) :
    (name category strings).after? characters =
      some (if characters.isEmpty then name category strings else pause category strings) := by
  cases characters with
  | nil => rfl
  | cons c characters =>
    rcases Text.blanks_cons.mp blank with ⟨first, others⟩
    obtain rfl := eq_lineFeed_of_not_inside first (stops c rfl)
    have notClosing : '\n' ≠ category.closing := by
      cases category <;> decide
    rw [after?_cons]
    simp [next?, notClosing, after?_pause_of_blanks others]

end Runs

/-! ## Single characters -/

section Delimiters

variable {category : Category} {tag : Option Category} {letters strings : Bool}

theorem after?_opening :
    (complete letters (some category) strings).after? [category.opening] =
      some (name category strings) := by
  have other : isBlank category.opening = false ∧ isAlphabetic category.opening = false ∧
      category.opening ≠ '"' := by
    cases category <;> decide +kernel
  rw [after?_cons]
  simp [next?, other]

theorem next?_closing_name :
    (name category strings).next? category.closing = some (complete false none strings) :=
  if_pos rfl

theorem next?_closing_pause :
    (pause category strings).next? category.closing = some (complete false none strings) := by
  have visible : isBlank category.closing = false := by
    cases category <;> decide
  simp [next?, visible]

/-- A name is closed whether or not a pause comes behind it. -/
theorem after?_closing (unpaused : Bool) :
    (if unpaused then name category strings else pause category strings).after?
      [category.closing] = some (complete false none strings) := by
  rw [after?_cons]
  cases unpaused with
  | true => simp [next?_closing_name]
  | false => simp [next?_closing_pause]

theorem next?_quote_complete :
    (complete letters tag true).next? '"' = some (text true) := by
  have other : isBlank '"' = false ∧ isAlphabetic '"' = false := by
    decide +kernel
  simp [next?, other]

theorem next?_quote_start : start.next? '"' = some (text false) := by
  have visible : isBlank '"' = false := by
    decide
  simp [next?, visible]

/-- Outside a string, a quote either opens one or stops the line. -/
theorem next?_quote_cases {stage : Stage} (outside : ∀ strings, stage ≠ text strings) :
    stage.next? '"' = none ∨ ∃ strings, stage.next? '"' = some (text strings) := by
  cases stage with
  | start => exact .inr ⟨false, next?_quote_start⟩
  | text strings => exact absurd rfl (outside strings)
  | complete letters tag strings =>
    cases strings with
    | true => exact .inr ⟨true, next?_quote_complete⟩
    | false =>
      have other : isBlank '"' = false ∧ isAlphabetic '"' = false := by
        decide +kernel
      exact .inl (by simp [next?, other])
  | name category strings =>
    left
    cases category <;> rfl
  | pause category strings =>
    have other : isBlank '"' = false ∧ '"' ≠ category.closing := by
      cases category <;> decide
    exact .inl (by simp [next?, other])

end Delimiters

/-! ## Tokens -/

section Tokens

variable {stage : Stage} {strings : Bool} {content verb : String} {covered rest : List Char}

theorem after?_quoted (opens : stage.next? '"' = some (text strings))
    (lexeme : Lexeme (.quoted content) covered rest) :
    stage.after? covered = some (complete false (some .grammaticalCase) strings) := by
  cases lexeme with
  | quoted unquoted =>
    rw [after?_cons, opens, Option.bind_some, after?_append, after?_text unquoted]
    rfl

theorem after?_identifier (lexeme : Lexeme (.identifier verb) covered rest) :
    start.after? covered = some (complete true (some .grammaticalMood) true) := by
  cases lexeme with
  | identifier letter letters _ =>
    have visible := Text.isBlank_eq_false_of_isAlphabetic letter
    have notQuote := Source.notDelimiter_of_isAlphabetic letter
    simp only [List.mem_cons, List.not_mem_nil, or_false, not_or] at notQuote
    rw [after?_cons]
    simp [next?, letter, visible, notQuote, after?_complete_of_letters letters]

end Tokens

/-! ## The way to the end -/

/-- Characters with which a line can end. -/
def completion : Stage → List Char
  | start => ['"', '"']
  | text _ => ['"']
  | complete .. => []
  | name category _ => [category.closing]
  | pause category _ => [category.closing]

/-- Every stage is on the way to the end of a line. -/
theorem exists_after?_completion (stage : Stage) :
    ∃ last, stage.after? stage.completion = some last ∧ last.canEnd = true := by
  cases stage with
  | start =>
    refine ⟨complete false (some .grammaticalCase) false, ?_, rfl⟩
    rw [completion, after?_cons, next?_quote_start]
    rfl
  | text strings => exact ⟨complete false (some .grammaticalCase) strings, rfl, rfl⟩
  | complete letters tag strings => exact ⟨complete letters tag strings, rfl, rfl⟩
  | name category strings =>
    refine ⟨complete false none strings, ?_, rfl⟩
    rw [completion, after?_cons, next?_closing_name]
    rfl
  | pause category strings =>
    refine ⟨complete false none strings, ?_, rfl⟩
    rw [completion, after?_cons, next?_closing_pause]
    rfl

end Stage

end Concord.Parsing
