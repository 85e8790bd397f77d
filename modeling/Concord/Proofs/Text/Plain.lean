import Mathlib.Data.Nat.Digits.Defs
import Concord.Proofs.Text.Blanks
import Concord.Text.Join
import Concord.Text.Quoted

/-!
# Texts without control characters

A text is plain if nothing in it is below the space.  Numbers are plain, letters are, and so is
every text between quotes, because there the controls are written by name or by number.
-/

namespace Concord.Text

open Unicode (isAlphabetic isHidden)

/-- None of the characters is a control character below the space. -/
def PlainChars (characters : List Char) : Prop :=
  ∀ c ∈ characters, 0x20 ≤ c.toNat

/-- No character of the text is a control character below the space. -/
def Plain (text : String) : Prop :=
  PlainChars text.toList

-- The characters are gone through one by one; there are too many to try all that exist.
instance (characters : List Char) : Decidable (PlainChars characters) :=
  List.decidableBAll (fun c : Char => 0x20 ≤ c.toNat) characters

instance (text : String) : Decidable (Plain text) :=
  inferInstanceAs (Decidable (PlainChars text.toList))

theorem Plain.not_mem {text : String} {c : Char} (plain : Plain text) (control : c.toNat < 0x20) :
    c ∉ text.toList := by
  intro member
  exact absurd control (Nat.not_lt.mpr (plain c member))

@[simp]
theorem plain_append {first second : String} :
    Plain (first ++ second) ↔ Plain first ∧ Plain second := by
  simp [Plain, PlainChars, or_imp, forall_and]

theorem not_mem_append_iff {first second : String} {c : Char} :
    c ∉ (first ++ second).toList ↔ c ∉ first.toList ∧ c ∉ second.toList := by
  simp

/-- A control in a text with a plain end is in what comes before. -/
theorem mem_append_plain_iff {first second : String} {c : Char}
    (plain : Plain second) (control : c.toNat < 0x20) :
    c ∈ (first ++ second).toList ↔ c ∈ first.toList := by
  simp [plain.not_mem control]

/-- A control in a text with a plain beginning is in what comes behind. -/
theorem mem_plain_append_iff {first second : String} {c : Char}
    (plain : Plain first) (control : c.toNat < 0x20) :
    c ∈ (first ++ second).toList ↔ c ∈ second.toList := by
  simp [plain.not_mem control]

theorem plain_joinWith {separator : String} {texts : List String}
    (plainSeparator : Plain separator) (plain : ∀ text ∈ texts, Plain text) :
    Plain (joinWith separator texts) := by
  induction texts with
  | nil => exact (by decide : Plain "")
  | cons text others inductionHypothesis =>
    rcases List.forall_mem_cons.mp plain with ⟨first, rest⟩
    cases others with
    | nil => exact first
    | cons next others =>
      simp only [joinWith, plain_append]
      exact ⟨⟨first, plainSeparator⟩, inductionHypothesis rest⟩

/-! ## Numbers -/

theorem le_of_mem_toDigits {base number : Nat} {c : Char} (several : 1 < base) (few : base ≤ 16)
    (member : c ∈ Nat.toDigits base number) : 0x20 ≤ c.toNat := by
  have digits : ∀ digit < 16, 0x20 ≤ (Nat.digitChar digit).toNat := by decide
  -- The last digit is what is left by the base, and the others are those of the quotient.
  induction number using Nat.strong_induction_on with
  | _ number inductionHypothesis =>
    by_cases small : number < base
    · rw [Nat.toDigits_of_lt_base small, List.mem_singleton] at member
      exact member ▸ digits number (by omega)
    · have shorter : number / base < number := Nat.div_lt_self (by omega) several
      rw [Nat.toDigits_of_base_le several (Nat.not_lt.mp small), List.mem_append,
        List.mem_singleton] at member
      rcases member with others | last
      · exact inductionHypothesis _ shorter others
      · exact last ▸ digits _ (Nat.lt_of_lt_of_le (Nat.mod_lt _ (by omega)) few)

theorem plain_toString (number : Nat) : Plain (toString number) := by
  intro c member
  rw [Nat.toString_eq_ofList_toDigits, String.toList_ofList] at member
  exact le_of_mem_toDigits (by decide) (by decide) member

/-! ## Letters and quoted texts -/

theorem plain_of_letters {text : String} (letters : ∀ c ∈ text.toList, isAlphabetic c = true) :
    Plain text := by
  have apart : Unicode.RangeTable.Apart Unicode.alphabeticRanges [(0, 0x1F)] := by decide +kernel
  intro c member
  have other := apart.covers_eq_false (letters c member)
  simp only [Unicode.RangeTable.covers, List.any_cons, List.any_nil, Nat.zero_le, decide_true,
    Bool.true_and, Bool.or_false, decide_eq_false_iff_not] at other
  omega

theorem isHidden_of_control {c : Char} (control : c.toNat < 0x20) : isHidden c = true := by
  have first : (0, 0x1F) ∈ Unicode.hiddenRanges := by decide
  exact Unicode.RangeTable.covers_iff.mpr ⟨_, first, Nat.zero_le _, Nat.le_of_lt_succ control⟩

/-- Where all controls count as hidden, no character is written with a control. -/
theorem plainChars_escapeChar {hidden : Char → Bool}
    (hides : ∀ c : Char, c.toNat < 0x20 → hidden c = true) (c : Char) :
    PlainChars (escapeChar hidden c) := by
  unfold escapeChar
  split_ifs with nul tab carriageReturn lineFeed quote backslash numbered
  any_goals decide
  · have opening : PlainChars ['\\', 'u', '\x7b'] := by decide
    have closing : PlainChars ['\x7d'] := by decide
    intro written member
    rw [List.mem_append, List.mem_append] at member
    rcases member with (first | digit) | last
    · exact opening written first
    · exact le_of_mem_toDigits (by decide) (by decide) digit
    · exact closing written last
  · intro written member
    rw [List.mem_singleton.mp member]
    exact Nat.not_lt.mp fun control => numbered (hides c control)

theorem plain_quoteWith {hidden : Char → Bool}
    (hides : ∀ c : Char, c.toNat < 0x20 → hidden c = true) (text : String) :
    Plain (quoteWith hidden text) := by
  intro written member
  simp only [quoteWith, String.toList_ofList, List.mem_append, List.mem_cons, List.mem_flatMap,
    List.not_mem_nil, or_false] at member
  rcases member with (rfl | ⟨c, -, escaped⟩) | rfl
  · decide
  · exact plainChars_escapeChar hides c written escaped
  · decide

end Concord.Text
