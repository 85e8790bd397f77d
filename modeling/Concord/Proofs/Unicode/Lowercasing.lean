import Concord.Proofs.Text.Blanks
import Concord.Proofs.Text.Decoding
import Concord.Unicode.Lowercase

/-!
# Texts in lower case

What is written in lower case has no capital letter in it, so that bringing it to lower case again
changes nothing.  Letters remain letters, with one exception: the capital I with a dot leaves the
dot behind as a mark of its own, and the mark is no letter.
-/

namespace Concord.Unicode

/-! ## Runs of capital letters

The tables are long, so that the tests which are made for all pairs of their members are written
with the comparisons that the kernel computes with. -/

namespace CaseRun

/-- The small letter of the last capital letter of a run. -/
def lastTarget (run : CaseRun) : Nat :=
  run.target + (run.last - run.first)

/-- No small letter of the one run is a capital letter of the other one. -/
def avoids (run other : CaseRun) : Bool :=
  run.lastTarget.blt other.first || other.last.blt run.target ||
    (run.first.beq run.last || run.step.beq 2) && other.step.beq 2 &&
      ((run.target + other.first) % 2).beq 1

/-- All small letters of the run are in the table, mostly in one range of it. -/
def staysIn (table : RangeTable) (run : CaseRun) : Bool :=
  table.any (fun range => range.1.ble run.target && run.lastTarget.ble range.2) ||
    (List.range (run.last - run.first + 1)).all fun distance =>
      !(distance % run.step).beq 0 || table.covers (run.target + distance)

variable {run other : CaseRun} {table : RangeTable} {point small : Nat}

theorem smallLetter?_eq_some_iff :
    run.smallLetter? point = some small ↔
      (run.first ≤ point ∧ point ≤ run.last ∧ (point - run.first) % run.step = 0) ∧
        run.target + (point - run.first) = small := by
  simp [smallLetter?]

theorem smallLetter?_eq_none_of_avoids (avoids : run.avoids other = true)
    (found : run.smallLetter? point = some small) : other.smallLetter? small = none := by
  rw [Option.eq_none_iff_forall_ne_some]
  intro again foundAgain
  rcases smallLetter?_eq_some_iff.mp found with ⟨⟨low, high, stepped⟩, rfl⟩
  rcases smallLetter?_eq_some_iff.mp foundAgain with ⟨⟨otherLow, otherHigh, otherStepped⟩, -⟩
  simp only [CaseRun.avoids, lastTarget, Bool.or_eq_true, Bool.and_eq_true, Nat.blt_eq,
    Nat.beq_eq] at avoids
  rcases avoids with (below | above) | ⟨⟨single | even, otherEven⟩, odd⟩
  · omega
  · omega
  · rw [otherEven] at otherStepped
    omega
  · rw [even] at stepped
    rw [otherEven] at otherStepped
    omega

theorem covers_of_staysIn (stays : run.staysIn table = true)
    (found : run.smallLetter? point = some small) : table.covers small = true := by
  rcases smallLetter?_eq_some_iff.mp found with ⟨⟨low, high, stepped⟩, rfl⟩
  rcases Bool.or_eq_true_iff.mp stays with whole | each
  · rcases List.any_eq_true.mp whole with ⟨range, member, bounds⟩
    simp only [lastTarget, Bool.and_eq_true, Nat.ble_eq] at bounds
    exact RangeTable.covers_iff.mpr ⟨range, member, by omega, by omega⟩
  · have distance := List.all_eq_true.mp each (point - run.first)
      (List.mem_range.mpr (by omega))
    simpa [stepped] using distance

end CaseRun

/-- The capital letters, with a run for the one whose lower case is two characters. -/
def capitalRuns : List CaseRun :=
  ⟨dottedCapitalI.toNat, dottedCapitalI.toNat, 1, 'i'.toNat⟩ :: lowercaseRuns

/-- No small letter is a capital letter. -/
theorem smallLetter?_eq_none {run other : CaseRun} {point small : Nat}
    (listed : run ∈ lowercaseRuns) (otherListed : other ∈ capitalRuns)
    (found : run.smallLetter? point = some small) : other.smallLetter? small = none := by
  have apart : (lowercaseRuns.all fun run => capitalRuns.all run.avoids) = true := by
    decide +kernel
  have avoids := List.all_eq_true.mp (List.all_eq_true.mp apart run listed) other otherListed
  exact CaseRun.smallLetter?_eq_none_of_avoids avoids found

/-- The small letter of every capital letter is alphabetic. -/
theorem covers_smallLetter? {run : CaseRun} {point small : Nat} (listed : run ∈ lowercaseRuns)
    (found : run.smallLetter? point = some small) : alphabeticRanges.covers small = true := by
  have stay : (lowercaseRuns.all (CaseRun.staysIn alphabeticRanges)) = true := by
    decide +kernel
  exact CaseRun.covers_of_staysIn (List.all_eq_true.mp stay run listed) found

/-- Every small letter is a character. -/
theorem toNat_ofNat_smallLetter? {run : CaseRun} {point small : Nat}
    (listed : run ∈ lowercaseRuns) (found : run.smallLetter? point = some small) :
    (Char.ofNat small).toNat = small := by
  have valid : (lowercaseRuns.all (CaseRun.staysIn [(0, 0xD7FF), (0xE000, 0x10FFFF)])) = true := by
    decide +kernel
  have covered := CaseRun.covers_of_staysIn (List.all_eq_true.mp valid run listed) found
  apply Text.Utf8.toNat_ofNat_of_isValidChar
  simp only [RangeTable.covers, List.any_cons, List.any_nil, Bool.or_false, Bool.or_eq_true,
    Bool.and_eq_true, decide_eq_true_eq] at covered
  simp only [Nat.isValidChar]
  omega

/-! ## Characters -/

/-- A character that lower case leaves as it is, wherever it stands. -/
def Small (c : Char) : Prop :=
  lowercaseChar c = [c] ∧ c ≠ capitalSigma

instance (c : Char) : Decidable (Small c) :=
  inferInstanceAs (Decidable (_ ∧ _))

theorem lowercaseChar_dottedCapitalI : lowercaseChar dottedCapitalI = ['i', '\u0307'] :=
  if_pos rfl

/-- A capital letter of a run becomes its small letter, and a character of no run is small. -/
theorem lowercaseChar_cases {c : Char} (other : c ≠ dottedCapitalI) :
    (∃ run ∈ lowercaseRuns, ∃ small, run.smallLetter? c.toNat = some small ∧
      lowercaseChar c = [Char.ofNat small]) ∨ Small c := by
  cases found : lowercaseRuns.findSome? (·.smallLetter? c.toNat) with
  | some small =>
    rcases List.exists_of_findSome?_eq_some found with ⟨run, listed, first⟩
    exact .inl ⟨run, listed, small, first, by simp [lowercaseChar, other, found]⟩
  | none =>
    refine .inr ⟨by simp [lowercaseChar, other, found], ?_⟩
    rintro rfl
    exact absurd found (by decide +kernel)

theorem small_of_smallLetter?_eq_none {c : Char}
    (none : ∀ run ∈ capitalRuns, run.smallLetter? c.toNat = none) : Small c := by
  have other : c ≠ dottedCapitalI := by
    rintro rfl
    exact absurd (none _ List.mem_cons_self) (by decide)
  rcases lowercaseChar_cases other with ⟨run, listed, small, found, -⟩ | small
  · rw [none run (List.mem_cons_of_mem _ listed)] at found
    cases found
  · exact small

theorem small_of_mem_lowercaseChar {c d : Char} (member : d ∈ lowercaseChar c) : Small d := by
  by_cases dotted : c = dottedCapitalI
  · have small : ∀ d ∈ ['i', '\u0307'], Small d := by
      rw [List.forall_mem_cons, List.forall_mem_singleton]
      exact ⟨by decide +kernel, by decide +kernel⟩
    rw [dotted, lowercaseChar_dottedCapitalI] at member
    exact small d member
  · rcases lowercaseChar_cases dotted with ⟨run, listed, small, found, lower⟩ | small
    · obtain rfl : d = Char.ofNat small := by simpa [lower] using member
      apply small_of_smallLetter?_eq_none
      intro other otherListed
      rw [toNat_ofNat_smallLetter? listed found]
      exact smallLetter?_eq_none listed otherListed found
    · obtain rfl : d = c := by simpa [small.1] using member
      exact small

theorem isAlphabetic_of_mem_lowercaseChar {c d : Char} (letter : isAlphabetic c = true)
    (other : c ≠ dottedCapitalI) (member : d ∈ lowercaseChar c) : isAlphabetic d = true := by
  rcases lowercaseChar_cases other with ⟨run, listed, small, found, lower⟩ | small
  · obtain rfl : d = Char.ofNat small := by simpa [lower] using member
    rw [isAlphabetic, toNat_ofNat_smallLetter? listed found]
    exact covers_smallLetter? listed found
  · obtain rfl : d = c := by simpa [small.1] using member
    exact letter

theorem lowercaseChar_ne_nil (c : Char) : lowercaseChar c ≠ [] := by
  by_cases dotted : c = dottedCapitalI
  · simp [dotted, lowercaseChar_dottedCapitalI]
  · rcases lowercaseChar_cases dotted with ⟨_, _, small, -, lower⟩ | small
    · simp [lower]
    · simp [small.1]

/-! ## Texts -/

/-- What holds of the lower case of every character, and of both forms of sigma, holds throughout. -/
theorem forall_mem_lowercaseAfter {property : Char → Prop} {characters : List Char}
    (each : ∀ c ∈ characters, ∀ d ∈ lowercaseChar c, property d)
    (final : property '\u03C2') (medial : property '\u03C3') (before : List Char) :
    ∀ d ∈ lowercaseAfter before characters, property d := by
  induction characters generalizing before with
  | nil => simp [lowercaseAfter]
  | cons c rest inductionHypothesis =>
    rcases List.forall_mem_cons.mp each with ⟨first, others⟩
    intro d member
    rw [lowercaseAfter, List.mem_append] at member
    rcases member with here | behind
    · split at here
      · rw [List.mem_singleton.mp here, lowercaseSigma]
        split
        · exact final
        · exact medial
      · exact first d here
    · exact inductionHypothesis others (c :: before) d behind

theorem lowercaseAfter_of_small {characters : List Char} (small : ∀ c ∈ characters, Small c)
    (before : List Char) : lowercaseAfter before characters = characters := by
  induction characters generalizing before with
  | nil => rfl
  | cons c rest inductionHypothesis =>
    rcases List.forall_mem_cons.mp small with ⟨first, others⟩
    rw [lowercaseAfter, if_neg first.2, first.1, inductionHypothesis others, List.singleton_append]

/-- Bringing a text to lower case again changes nothing. -/
theorem lowercase_lowercase (text : String) : lowercase (lowercase text) = lowercase text := by
  have small : ∀ c ∈ lowercaseAfter [] text.toList, Small c :=
    forall_mem_lowercaseAfter (fun _ _ _ member => small_of_mem_lowercaseChar member)
      (by decide +kernel) (by decide +kernel) []
  rw [lowercase, lowercase, String.toList_ofList, lowercaseAfter_of_small small]

theorem lowercase_ne_empty {text : String} (nonempty : text ≠ "") : lowercase text ≠ "" := by
  rw [lowercase, ne_eq, String.ofList_eq_empty_iff]
  have characters : text.toList ≠ [] := by simpa using nonempty
  rcases List.exists_cons_of_ne_nil characters with ⟨c, rest, whole⟩
  rw [whole, lowercaseAfter]
  split <;> simp [lowercaseChar_ne_nil]

/-- Letters remain letters where no capital I with a dot is among them. -/
theorem isAlphabetic_of_mem_lowercase {text : String}
    (letters : ∀ c ∈ text.toList, isAlphabetic c = true) (others : dottedCapitalI ∉ text.toList) :
    ∀ c ∈ (lowercase text).toList, isAlphabetic c = true := by
  rw [lowercase, String.toList_ofList]
  apply forall_mem_lowercaseAfter
  · intro c member d lower
    exact isAlphabetic_of_mem_lowercaseChar (letters c member)
      (ne_of_mem_of_not_mem member others) lower
  · decide +kernel
  · decide +kernel

/-- The mark that a capital I with a dot leaves behind. -/
theorem mark_mem_lowercase {text : String} (dotted : dottedCapitalI ∈ text.toList) :
    '\u0307' ∈ (lowercase text).toList := by
  have among : ∀ characters before : List Char, dottedCapitalI ∈ characters →
      '\u0307' ∈ lowercaseAfter before characters := by
    intro characters
    induction characters with
    | nil => simp
    | cons c rest inductionHypothesis =>
      intro before member
      rw [lowercaseAfter, List.mem_append]
      rcases List.mem_cons.mp member with rfl | later
      · left
        rw [if_neg (by decide), lowercaseChar_dottedCapitalI]
        simp
      · exact .inr (inductionHypothesis (c :: before) later)
  rw [lowercase, String.toList_ofList]
  exact among text.toList [] dotted

/-- A word of letters is one in lower case as well exactly if no capital I with a dot is in it. -/
theorem forall_isAlphabetic_lowercase_iff {text : String}
    (letters : ∀ c ∈ text.toList, isAlphabetic c = true) :
    (∀ c ∈ (lowercase text).toList, isAlphabetic c = true) ↔ dottedCapitalI ∉ text.toList := by
  constructor
  · intro lower dotted
    exact absurd (lower _ (mark_mem_lowercase dotted)) (by decide +kernel)
  · exact isAlphabetic_of_mem_lowercase letters

end Concord.Unicode
