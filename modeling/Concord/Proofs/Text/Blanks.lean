import Mathlib.Data.List.TakeWhile
import Concord.Text.Blank
import Concord.Unicode.Alphabetic

/-!
# Runs of characters

A text is read in runs: blanks that are skipped, letters that make a verb, characters that make a
name.  A run is as long as it can be, so that splitting a text behind a run has one outcome.  The
classes of characters that end each other's runs have no member in common.
-/

namespace Concord

namespace Unicode.RangeTable

/-- No range of the one table meets a range of the other. -/
def Apart (first second : RangeTable) : Prop :=
  ∀ range ∈ first, ∀ other ∈ second, range.2 < other.1 ∨ other.2 < range.1

instance (first second : RangeTable) : Decidable (Apart first second) :=
  inferInstanceAs (Decidable (∀ range ∈ first, ∀ other ∈ second,
    range.2 < other.1 ∨ other.2 < range.1))

theorem Apart.covers_eq_false {first second : RangeTable} {point : Nat}
    (apart : Apart first second) (covered : first.covers point = true) :
    second.covers point = false := by
  rw [Bool.eq_false_iff]
  intro both
  rcases covers_iff.mp covered with ⟨range, member, low, high⟩
  rcases covers_iff.mp both with ⟨other, otherMember, otherLow, otherHigh⟩
  have separated := apart range member other otherMember
  omega

end Unicode.RangeTable

namespace Text

open Unicode (isAlphabetic)

/-- A letter is no blank. -/
theorem isBlank_eq_false_of_isAlphabetic {c : Char}
    (letter : isAlphabetic c = true) : isBlank c = false := by
  have apart : Unicode.RangeTable.Apart Unicode.alphabeticRanges blankRanges := by
    decide +kernel
  exact apart.covers_eq_false letter

/-! ## Splitting behind a run -/

/--
Splitting a text at the first character that fails a test has one outcome: the part before it
passes throughout, and the part behind it fails at once.
-/
theorem split_iff {element : Type} {test : element → Bool} {characters front back : List element} :
    characters.takeWhile test = front ∧ characters.dropWhile test = back ↔
      characters = front ++ back ∧ (∀ c ∈ front, test c = true) ∧
        ∀ c ∈ back.head?, test c = false := by
  constructor
  · rintro ⟨rfl, rfl⟩
    refine ⟨List.takeWhile_append_dropWhile.symm, fun c member => ?_, fun c first => ?_⟩
    · exact List.mem_takeWhile_imp member
    · have stopped := List.head?_dropWhile_not test characters
      rw [Option.mem_def.mp first] at stopped
      exact stopped
  · rintro ⟨rfl, passes, fails⟩
    rw [List.takeWhile_append_of_pos passes, List.dropWhile_append_of_pos passes]
    cases back with
    | nil => simp
    | cons c behind =>
      have stopped : test c = false := fails c rfl
      simp [stopped]

theorem decide_ne_of_not_mem {stop : Char} {characters : List Char} (absent : stop ∉ characters) :
    ∀ c ∈ characters, decide (c ≠ stop) = true := by
  intro c member
  exact decide_eq_true (ne_of_mem_of_not_mem member absent)

/-! ## Blanks -/

/-- Nothing but blanks. -/
def Blanks (characters : List Char) : Prop :=
  ∀ c ∈ characters, isBlank c = true

@[simp]
theorem blanks_nil : Blanks [] := by
  simp [Blanks]

@[simp]
theorem blanks_cons {c : Char} {characters : List Char} :
    Blanks (c :: characters) ↔ isBlank c = true ∧ Blanks characters := by
  simp [Blanks]

/-- Skipping the blanks before a character that is none leaves what they stood before. -/
theorem dropWhile_isBlank_append {blanks rest : List Char}
    (blank : Blanks blanks) (stops : ∀ c ∈ rest.head?, isBlank c = false) :
    (blanks ++ rest).dropWhile isBlank = rest :=
  (split_iff.mpr ⟨rfl, blank, stops⟩).2

theorem mem_of_mem_trim {c : Char} {text : String} (member : c ∈ (trim text).toList) :
    c ∈ text.toList := by
  rw [trim, String.toList_ofList, trimChars, dropTrailingBlanks, List.mem_reverse] at member
  have inner := List.mem_reverse.mp ((List.dropWhile_sublist isBlank).mem member)
  exact (List.dropWhile_sublist isBlank).mem inner

end Text

end Concord
