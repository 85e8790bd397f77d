import Concord.Unicode.RangeTable

/-!
# Blanks

The characters of the Unicode property `White_Space`, which separate the parts of a line and are
trimmed off its ends.
-/

namespace Concord.Text

open Unicode (RangeTable)

/-- The code points with the property `White_Space`. -/
def blankRanges : RangeTable :=
  [(0x9, 0xD), (0x20, 0x20), (0x85, 0x85), (0xA0, 0xA0), (0x1680, 0x1680), (0x2000, 0x200A),
   (0x2028, 0x2029), (0x202F, 0x202F), (0x205F, 0x205F), (0x3000, 0x3000)]

def isBlank (c : Char) : Bool :=
  blankRanges.covers c.toNat

def dropTrailingBlanks (characters : List Char) : List Char :=
  (characters.reverse.dropWhile isBlank).reverse

def trimChars (characters : List Char) : List Char :=
  dropTrailingBlanks (characters.dropWhile isBlank)

def trim (text : String) : String :=
  String.ofList (trimChars text.toList)

def isBlankText (text : String) : Bool :=
  text.toList.all isBlank

theorem dropWhile_isBlank_eq_nil_iff (characters : List Char) :
    characters.dropWhile isBlank = [] ↔ ∀ c ∈ characters, isBlank c = true := by
  induction characters with
  | nil => simp
  | cons c rest inductionHypothesis =>
    by_cases blank : isBlank c = true <;> simp [blank, inductionHypothesis]

theorem trimChars_eq_nil_iff (characters : List Char) :
    trimChars characters = [] ↔ ∀ c ∈ characters, isBlank c = true := by
  simp only [trimChars, dropTrailingBlanks, List.reverse_eq_nil_iff,
    dropWhile_isBlank_eq_nil_iff, List.mem_reverse]
  constructor
  · induction characters with
    | nil => simp
    | cons c rest inductionHypothesis =>
      by_cases blank : isBlank c = true
      · simpa [List.dropWhile_cons, blank] using inductionHypothesis
      · simp [blank]
  · intro allBlank c member
    exact allBlank c ((List.dropWhile_sublist isBlank).mem member)

/-- Trimming leaves nothing exactly of a blank text. -/
theorem trim_eq_empty_iff (text : String) : trim text = "" ↔ isBlankText text = true := by
  rw [isBlankText, List.all_eq_true, ← trimChars_eq_nil_iff, trim, ← String.toList_inj]
  simp

end Concord.Text
