import Mathlib.Data.List.Basic
import Mathlib.Data.Nat.Init
import Concord.Text.Utf8

/-!
# Characters among bytes

A byte below 128 stands for a character wherever it stands in the bytes of a text, since the longer
sequences are made of greater bytes alone.  So whether such a character is in a text can be seen
from the bytes, and a text can be cut at it without being decoded.
-/

namespace Concord.Text.Utf8

@[simp]
theorem encode_append (first second : String) :
    encode (first ++ second) = encode first ++ encode second := by
  simp [encode]

@[simp]
theorem encode_join (texts : List String) :
    encode (String.join texts) = texts.flatMap encode := by
  simp only [encode, String.toList_join, List.flatMap_assoc]
  rfl

theorem utf8EncodeChar_of_ascii {c : Char} (ascii : c.toNat < 0x80) :
    String.utf8EncodeChar c = [c.toUInt8] := by
  have single : c.val.toNat ≤ 0x7f := Nat.le_of_lt_succ ascii
  simp only [String.utf8EncodeChar, single, if_true]
  rfl

/-- The bytes of a character that is not below 128 are none of them below 128. -/
theorem le_of_mem_utf8EncodeChar {c : Char} {byte : UInt8}
    (wide : 0x80 ≤ c.toNat) (member : byte ∈ String.utf8EncodeChar c) : 0x80 ≤ byte.toNat := by
  have notSingle : ¬ c.val.toNat ≤ 0x7f := Nat.not_le.mpr wide
  simp only [String.utf8EncodeChar, notSingle, if_false] at member
  split at member
  · rcases List.mem_pair.mp member with rfl | rfl <;> simp <;> omega
  · split at member
    · simp only [List.mem_cons, List.not_mem_nil, or_false] at member
      rcases member with rfl | rfl | rfl <;> simp <;> omega
    · simp only [List.mem_cons, List.not_mem_nil, or_false] at member
      rcases member with rfl | rfl | rfl | rfl <;> simp <;> omega

theorem toNat_toUInt8 {c : Char} (ascii : c.toNat < 0x80) : c.toUInt8.toNat = c.toNat := by
  have narrow : c.toNat < 2 ^ 8 := by omega
  exact Nat.mod_eq_of_lt narrow

theorem mem_utf8EncodeChar_iff {c other : Char} (ascii : c.toNat < 0x80) :
    c.toUInt8 ∈ String.utf8EncodeChar other ↔ c = other := by
  by_cases narrow : other.toNat < 0x80
  · rw [utf8EncodeChar_of_ascii narrow, List.mem_singleton]
    constructor
    · intro same
      apply Char.toNat_inj.mp
      rw [← toNat_toUInt8 ascii, ← toNat_toUInt8 narrow, same]
    · rintro rfl
      rfl
  · constructor
    · intro member
      have wide := le_of_mem_utf8EncodeChar (Nat.not_lt.mp narrow) member
      rw [toNat_toUInt8 ascii] at wide
      omega
    · rintro rfl
      exact absurd ascii narrow

/-- A character below 128 is in a text exactly if its byte is among the bytes of the text. -/
theorem mem_encode_iff {c : Char} (ascii : c.toNat < 0x80) {text : String} :
    c.toUInt8 ∈ encode text ↔ c ∈ text.toList := by
  simp [encode, mem_utf8EncodeChar_iff ascii]

end Concord.Text.Utf8
