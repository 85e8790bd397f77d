import Mathlib.Data.List.Induction
import Concord.Proofs.Source.Passage

/-!
# Lines and columns

A position is kept while a text is read, in bytes, lines and characters.  The line of an error is
looked up afterwards, in the whole text.  Both are computed here from the characters in front of a
place: its line counts their line feeds, its column the characters of their last line, and the line
looked up is the one with this number.  So a line and a column name at most one place.
-/

namespace Concord

namespace Text

/-! ## Last lines -/

/-- The characters behind the last line feed. -/
def lastLine (characters : List Char) : List Char :=
  (characters.reverse.takeWhile (· ≠ '\n')).reverse

theorem lineAround_eq (before behind : List Char) :
    lineAround before behind = lastLine before ++ behind.takeWhile (· ≠ '\n') :=
  rfl

@[simp]
theorem lastLine_nil : lastLine [] = [] :=
  rfl

@[simp]
theorem lastLine_append_lineFeed (characters : List Char) :
    lastLine (characters ++ ['\n']) = [] := by
  simp [lastLine]

theorem lastLine_append {characters line : List Char} (unbroken : '\n' ∉ line) :
    lastLine (characters ++ line) = lastLine characters ++ line := by
  have others : ∀ c ∈ line.reverse, decide (c ≠ '\n') = true :=
    decide_ne_of_not_mem (List.mem_reverse.not.mpr unbroken)
  rw [lastLine, List.reverse_append, List.takeWhile_append_of_pos others, List.reverse_append,
    List.reverse_reverse, lastLine]

/-- In front of the last line is nothing, or other lines and a line feed. -/
theorem exists_eq_append_lastLine (characters : List Char) :
    '\n' ∉ lastLine characters ∧ (characters = lastLine characters ∨
      ∃ lines, characters = lines ++ '\n' :: lastLine characters) := by
  induction characters using List.reverseRecOn with
  | nil => simp
  | append_singleton characters c inductionHypothesis =>
    by_cases lineFeed : c = '\n'
    · subst lineFeed
      rw [lastLine_append_lineFeed]
      exact ⟨List.not_mem_nil, .inr ⟨characters, rfl⟩⟩
    · have unbroken : '\n' ∉ [c] := by
        simpa using Ne.symm lineFeed
      rcases inductionHypothesis with ⟨last, only | ⟨lines, earlier⟩⟩
      · rw [lastLine_append unbroken, ← only]
        rw [← only] at last
        exact ⟨by simp [last, Ne.symm lineFeed], .inl rfl⟩
      · rw [lastLine_append unbroken]
        refine ⟨by simp [last, Ne.symm lineFeed], .inr ⟨lines, ?_⟩⟩
        rw [← List.cons_append, ← List.append_assoc, ← earlier]

theorem length_lastLine_le (characters : List Char) :
    (lastLine characters).length ≤ characters.length := by
  rcases exists_eq_append_lastLine characters with ⟨-, only | ⟨lines, earlier⟩⟩
  · rw [← only]
  · rw [congrArg List.length earlier, List.length_append, List.length_cons]
    omega

theorem lineFeed_not_mem_lineAround (before behind : List Char) :
    '\n' ∉ lineAround before behind := by
  rw [lineAround_eq, List.mem_append, not_or]
  refine ⟨(exists_eq_append_lastLine before).1, fun member => ?_⟩
  simpa using List.mem_takeWhile_imp member

/-! ## The lines of a text -/

theorem length_splitOn (separator : Char) (characters : List Char) :
    (characters.splitOn separator).length = characters.count separator + 1 := by
  induction characters with
  | nil => simp
  | cons c characters inductionHypothesis =>
    rw [List.splitOn_cons_eq_if_modifyHead, List.count_cons]
    split <;> simp [inductionHypothesis]

theorem head?_splitOn (separator : Char) (characters : List Char) :
    (characters.splitOn separator).head? = some (characters.takeWhile (· ≠ separator)) := by
  induction characters with
  | nil => simp
  | cons c characters inductionHypothesis =>
    rw [List.splitOn_cons_eq_if_modifyHead]
    by_cases separates : c = separator
    · simp [separates]
    · simp [separates, inductionHypothesis]

/-- The line looked up around a place is the one with as many line feeds before it. -/
theorem getElem?_splitOn_count (before behind : List Char) :
    ((before ++ behind).splitOn '\n')[before.count '\n']? = some (lineAround before behind) := by
  have around (line : List Char) (unbroken : '\n' ∉ line) :
      ((line ++ behind).splitOn '\n')[0]? = some (line ++ behind.takeWhile (· ≠ '\n')) := by
    have others := decide_ne_of_not_mem unbroken
    rw [← List.head?_eq_getElem?, head?_splitOn, List.takeWhile_append_of_pos others]
  rw [lineAround_eq]
  rcases exists_eq_append_lastLine before with ⟨unbroken, only | ⟨lines, earlier⟩⟩
  · have none : before.count '\n' = 0 := by
      rw [only]
      exact List.count_eq_zero_of_not_mem unbroken
    rw [none, ← around _ unbroken, ← only]
  · have number : before.count '\n' = (lines.splitOn '\n').length := by
      rw [length_splitOn, earlier, List.count_append, List.count_cons_self,
        List.count_eq_zero_of_not_mem unbroken]
    have cut : (before ++ behind).splitOn '\n' =
        lines.splitOn '\n' ++ (lastLine before ++ behind).splitOn '\n' := by
      rw [← List.splitOn_append_cons_self, ← List.cons_append, ← List.append_assoc, ← earlier]
    rw [cut, number, List.getElem?_append_right (Nat.le_refl _), Nat.sub_self, around _ unbroken]

/-- The line looked up around a place, as a slice of the text. -/
theorem slice?_lineAround {text : String} {before behind : List Char}
    (whole : text.toList = before ++ behind) :
    slice? text (byteLength before - byteLength (lastLine before))
      (byteLength before + byteLength (behind.takeWhile (· ≠ '\n'))) =
      some (String.ofList (lineAround before behind)) := by
  obtain ⟨earlier, split⟩ : ∃ earlier, before = earlier ++ lastLine before := by
    rcases exists_eq_append_lastLine before with ⟨-, only | ⟨lines, earlier⟩⟩
    · exact ⟨[], only⟩
    · exact ⟨lines ++ ['\n'], by simpa using earlier⟩
  have bytes : byteLength before = byteLength earlier + byteLength (lastLine before) := by
    rw [← byteLength_append, ← split]
  refine slice?_eq_some_iff.mpr ⟨earlier, behind.dropWhile (· ≠ '\n'), ?_, ?_, ?_⟩
  · rw [whole, String.toList_ofList, lineAround_eq, List.append_assoc,
      List.takeWhile_append_dropWhile, ← List.append_assoc, ← split]
  · omega
  · rw [String.toList_ofList, lineAround_eq, ← List.append_assoc, ← split, byteLength_append]

end Text

namespace Source

open Text (byteLength lastLine)

/-- A line and a column, counted from one, name the place behind these characters. -/
structure Names (line column : Nat) (before : List Char) : Prop where
  line : line = 1 + before.count '\n'
  column : column = 1 + (lastLine before).length

/-- A position that was kept from the start of a text on names its place. -/
theorem Position.names_after_start (before : List Char) :
    Names (Position.start.after before).line (Position.start.after before).column before := by
  induction before using List.reverseRecOn with
  | nil => exact ⟨rfl, rfl⟩
  | append_singleton before c inductionHypothesis =>
    rcases inductionHypothesis with ⟨line, column⟩
    rw [Position.after_append, Position.after_cons, Position.after_nil, Position.next]
    by_cases lineFeed : c = '\n'
    · subst lineFeed
      rw [if_pos rfl]
      exact ⟨by simp [line, Nat.add_assoc], by simp⟩
    · have unbroken : '\n' ∉ [c] := by
        simpa using Ne.symm lineFeed
      rw [if_neg lineFeed]
      refine ⟨?_, ?_⟩
      · simp [line, List.count_eq_zero_of_not_mem unbroken]
      · simp [column, Text.lastLine_append unbroken, Nat.add_assoc]

section Names

variable {line column : Nat} {before other between behind rest : List Char}

/-- Neither number is greater than the number of characters and one. -/
theorem Names.le_length (names : Names line column before) :
    line ≤ before.length + 1 ∧ column ≤ before.length + 1 := by
  have lines : before.count '\n' ≤ before.length := List.count_le_length
  have columns := Text.length_lastLine_le before
  rw [names.line, names.column]
  omega

theorem Names.eq_nil (names : Names line column before)
    (others : Names line column (before ++ between)) : between = [] := by
  have lines := others.line
  have columns := others.column
  rw [names.line, List.count_append] at lines
  have unbroken : '\n' ∉ between := by
    apply List.count_eq_zero.mp
    omega
  rw [names.column, Text.lastLine_append unbroken, List.length_append] at columns
  apply List.eq_nil_of_length_eq_zero
  omega

/-- A line and a column name one place of a text. -/
theorem Names.unique (names : Names line column before) (others : Names line column other)
    (same : before ++ behind = other ++ rest) : before = other := by
  rcases List.append_eq_append_iff.mp same with ⟨between, rfl, -⟩ | ⟨between, rfl, -⟩
  · rw [names.eq_nil others, List.append_nil]
  · rw [others.eq_nil names, List.append_nil]

end Names

end Source

end Concord
