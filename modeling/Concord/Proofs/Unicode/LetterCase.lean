import Mathlib.Data.List.Forall2
import Concord.Unicode.Alphabetic
import Concord.Unicode.Lowercase

/-!
# Capital and small letters from A to Z

A text does not change in lower case when letters from A to Z are written in another case in it.
This is not a matter of each letter alone: the lower case of a capital sigma depends on the letters
around it, but only on whether they are cased, and both forms of these letters are.
-/

namespace Concord.Unicode

/-- The two characters are the same, or the capital and the small form of a letter from A to Z. -/
def SameLetter (c d : Char) : Prop :=
  c.toLower = d.toLower

instance (c d : Char) : Decidable (SameLetter c d) :=
  inferInstanceAs (Decidable (_ = _))

/-- The two texts differ in nothing but the case of letters from A to Z. -/
def SameLetters (text other : String) : Prop :=
  List.Forall₂ SameLetter text.toList other.toList

/-- The capital letters from A to Z. -/
def latinCapitals : List Char :=
  (List.range 26).map fun distance => Char.ofNat ('A'.toNat + distance)

theorem mem_latinCapitals {c : Char} (low : 'A'.val ≤ c.val) (high : c.val ≤ 'Z'.val) :
    c ∈ latinCapitals := by
  have low : 65 ≤ c.toNat := low
  have high : c.toNat ≤ 90 := high
  refine List.mem_map.mpr ⟨c.toNat - 65, List.mem_range.mpr (by omega), ?_⟩
  have sum : 'A'.toNat + (c.toNat - 65) = c.toNat := by
    rw [show 'A'.toNat = 65 from rfl]
    omega
  rw [sum, Char.ofNat_toNat]

/-- What is the same for the two forms of each letter is the same for all characters alike. -/
theorem SameLetter.congr {value : Type} [DecidableEq value] {property : Char → value}
    (checked : (latinCapitals.all fun c => property c.toLower = property c) = true) {c d : Char}
    (same : SameLetter c d) : property c = property d := by
  have small (c : Char) : property c.toLower = property c := by
    by_cases capital : 'A'.val ≤ c.val ∧ c.val ≤ 'Z'.val
    · exact of_decide_eq_true
        (List.all_eq_true.mp checked c (mem_latinCapitals capital.1 capital.2))
    · have unchanged : c.toLower = c := dif_neg capital
      rw [unchanged]
  rw [← small c, ← small d, same]

section SameLetter

variable {c d : Char} {characters others : List Char}

theorem SameLetter.refl (c : Char) : SameLetter c c :=
  rfl

/-- Two forms of a letter are letters, so that other characters have only one. -/
theorem SameLetter.eq_or_letters (same : SameLetter c d) :
    c = d ∨ isAlphabetic c = true ∧ isAlphabetic d = true := by
  have small : (latinCapitals.all fun c => isAlphabetic c && isAlphabetic c.toLower) = true := by
    decide +kernel
  have letter (c : Char) :
      c.toLower = c ∨ isAlphabetic c = true ∧ isAlphabetic c.toLower = true := by
    by_cases capital : 'A'.val ≤ c.val ∧ c.val ≤ 'Z'.val
    · right
      simpa using List.all_eq_true.mp small c (mem_latinCapitals capital.1 capital.2)
    · exact .inl (dif_neg capital)
  have alphabetic : isAlphabetic c = isAlphabetic d := same.congr (by decide +kernel)
  rcases letter c with unchanged | ⟨letter, -⟩
  · rcases letter d with also | ⟨letter, -⟩
    · exact .inl (unchanged.symm.trans (same.trans also))
    · exact .inr ⟨alphabetic.trans letter, letter⟩
  · exact .inr ⟨letter, alphabetic.symm.trans letter⟩

theorem SameLetter.utf8Size_eq (same : SameLetter c d) : c.utf8Size = d.utf8Size :=
  same.congr (by decide +kernel)

theorem SameLetter.lowercaseChar_eq (same : SameLetter c d) : lowercaseChar c = lowercaseChar d :=
  same.congr (by decide +kernel)

theorem SameLetter.eq_capitalSigma_iff (same : SameLetter c d) :
    c = capitalSigma ↔ d = capitalSigma := by
  let isSigma (c : Char) : Bool := c = capitalSigma
  have decided : isSigma c = isSigma d := same.congr (by decide +kernel)
  simpa [isSigma] using decided

/-! ## Texts -/

theorem meetsCased_congr (same : List.Forall₂ SameLetter characters others) :
    meetsCased characters = meetsCased others := by
  induction same with
  | nil => rfl
  | @cons c d characters others first rest inductionHypothesis =>
    have ignorable : isCaseIgnorable c = isCaseIgnorable d := first.congr (by decide +kernel)
    have cased : isCased c = isCased d := first.congr (by decide +kernel)
    cases skipped : isCaseIgnorable d with
    | true => simpa [meetsCased, ignorable, skipped] using inductionHypothesis
    | false => simp [meetsCased, ignorable, skipped, cased]

theorem lowercaseAfter_congr (same : List.Forall₂ SameLetter characters others)
    {before front : List Char} (sameBefore : List.Forall₂ SameLetter before front) :
    lowercaseAfter before characters = lowercaseAfter front others := by
  induction same generalizing before front with
  | nil => rfl
  | @cons c d characters others first rest inductionHypothesis =>
    rw [lowercaseAfter, lowercaseAfter, inductionHypothesis (.cons first sameBefore)]
    simp only [first.eq_capitalSigma_iff, first.lowercaseChar_eq, lowercaseSigma,
      meetsCased_congr sameBefore, meetsCased_congr rest]

/-- In lower case, texts are equal that differ only in the case of letters from A to Z. -/
theorem lowercase_congr {text other : String} (same : SameLetters text other) :
    lowercase text = lowercase other := by
  rw [lowercase, lowercase, lowercaseAfter_congr same .nil]

end SameLetter

end Concord.Unicode
