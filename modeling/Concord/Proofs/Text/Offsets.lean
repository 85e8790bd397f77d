import Mathlib.Data.List.Basic
import Concord.Text.Slice

/-!
# Places of a text

An offset is a place of a text if it is the number of bytes of a part at its beginning.  There is
then only one such part, because every character has at least one byte.
-/

namespace Concord.Text

@[simp]
theorem byteLength_nil : byteLength [] = 0 :=
  rfl

@[simp]
theorem byteLength_cons (c : Char) (characters : List Char) :
    byteLength (c :: characters) = c.utf8Size + byteLength characters :=
  rfl

@[simp]
theorem byteLength_append (first second : List Char) :
    byteLength (first ++ second) = byteLength first + byteLength second := by
  induction first with
  | nil => simp
  | cons c first inductionHypothesis => simp [inductionHypothesis, Nat.add_assoc]

theorem byteLength_pos {characters : List Char} (nonempty : characters ≠ []) :
    0 < byteLength characters := by
  rcases List.exists_cons_of_ne_nil nonempty with ⟨c, others, rfl⟩
  have size := c.utf8Size_pos
  rw [byteLength_cons]
  omega

theorem splitAtByte?_append (before after : List Char) :
    splitAtByte? (before ++ after) (byteLength before) = some (before, after) := by
  induction before with
  | nil => simp [splitAtByte?]
  | cons c before inductionHypothesis =>
    have size := c.utf8Size_pos
    obtain ⟨offset, sum⟩ : ∃ offset, c.utf8Size + byteLength before = offset + 1 :=
      ⟨c.utf8Size + byteLength before - 1, by omega⟩
    have fits : c.utf8Size ≤ offset + 1 := by omega
    have left : offset + 1 - c.utf8Size = byteLength before := by omega
    rw [List.cons_append, byteLength_cons, sum, splitAtByte?, if_pos fits, left,
      inductionHypothesis, Option.map_some]

/-- A place splits a text into the part with that many bytes and the part behind it. -/
theorem splitAtByte?_eq_some_iff {characters before after : List Char} {offset : Nat} :
    splitAtByte? characters offset = some (before, after) ↔
      characters = before ++ after ∧ byteLength before = offset := by
  constructor
  · intro split
    induction characters generalizing offset before with
    | nil =>
      cases offset with
      | zero =>
        obtain ⟨rfl, rfl⟩ := Prod.mk.inj (Option.some.inj split)
        exact ⟨rfl, rfl⟩
      | succ offset => cases split
    | cons c characters inductionHypothesis =>
      cases offset with
      | zero =>
        obtain ⟨rfl, rfl⟩ := Prod.mk.inj (Option.some.inj split)
        exact ⟨rfl, rfl⟩
      | succ offset =>
        simp only [splitAtByte?] at split
        split at split
        · next fits =>
          rcases Option.map_eq_some_iff.mp split with ⟨⟨front, back⟩, inner, same⟩
          obtain ⟨rfl, rfl⟩ := Prod.mk.inj same
          rcases inductionHypothesis inner with ⟨rfl, length⟩
          refine ⟨rfl, ?_⟩
          rw [byteLength_cons, length]
          omega
        · cases split
  · rintro ⟨rfl, rfl⟩
    exact splitAtByte?_append before after

/-- A slice is what lies between two places of a text. -/
theorem slice?_eq_some_iff {text covered : String} {start stop : Nat} :
    slice? text start stop = some covered ↔
      ∃ before after, text.toList = before ++ (covered.toList ++ after) ∧
        byteLength before = start ∧ byteLength (before ++ covered.toList) = stop := by
  constructor
  · intro sliced
    unfold slice? at sliced
    split at sliced
    · split at sliced
      · next front back cut =>
        rcases Option.map_eq_some_iff.mp sliced with ⟨⟨before, inner⟩, cutBefore, rfl⟩
        rcases splitAtByte?_eq_some_iff.mp cut with ⟨whole, stops⟩
        rcases splitAtByte?_eq_some_iff.mp cutBefore with ⟨rfl, starts⟩
        exact ⟨before, back, by simpa using whole, starts, by simpa using stops⟩
      · cases sliced
    · cases sliced
  · rintro ⟨before, after, whole, rfl, rfl⟩
    have ordered : byteLength before ≤ byteLength (before ++ covered.toList) := by simp
    have outer := splitAtByte?_append (before ++ covered.toList) after
    have inner := splitAtByte?_append before covered.toList
    simp only [slice?, if_pos ordered, whole, ← List.append_assoc, outer, inner, Option.map_some,
      String.ofList_toList]

/-- Of two beginnings of a text, the one with no more bytes is a beginning of the other. -/
theorem exists_append_of_byteLength_le {first second rest others : List Char}
    (same : first ++ rest = second ++ others) (shorter : byteLength first ≤ byteLength second) :
    ∃ between, second = first ++ between ∧ rest = between ++ others := by
  rcases List.append_eq_append_iff.mp same with ⟨between, split, behind⟩ | ⟨between, rfl, rfl⟩
  · exact ⟨between, split, behind⟩
  · cases between with
    | nil => exact ⟨[], by simp, by simp⟩
    | cons c between =>
      have size := c.utf8Size_pos
      simp only [byteLength_append, byteLength_cons] at shorter
      omega

end Concord.Text
