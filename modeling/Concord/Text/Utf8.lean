/-!
# UTF-8

Texts and their bytes.  Decoding never fails: where the bytes break off from a well-formed sequence,
the longest part that could still have begun one stands for a single replacement character.
-/

namespace Concord.Text.Utf8

def encode (text : String) : List UInt8 :=
  text.toList.flatMap String.utf8EncodeChar

/-- Whether a byte can stand behind the first two of a sequence. -/
def isTail (byte : UInt8) : Bool :=
  0x80 ≤ byte && byte ≤ 0xBF

/-- What the first byte of a sequence of several bytes says about the others. -/
structure Lead where
  /-- The bits of the code point in the first byte. -/
  bits : Nat
  low : UInt8
  high : UInt8
  /-- How many bytes follow the second one. -/
  tails : Nat

/--
How a sequence of several bytes goes on after its first byte.  The bounds on the second byte keep out
overlong forms, surrogates and code points beyond the last one.
-/
def lead? (byte : UInt8) : Option Lead :=
  if byte < 0xC2 then none
  else if byte ≤ 0xDF then some ⟨byte.toNat - 0xC0, 0x80, 0xBF, 0⟩
  else if byte = 0xE0 then some ⟨0, 0xA0, 0xBF, 1⟩
  else if byte = 0xED then some ⟨0xD, 0x80, 0x9F, 1⟩
  else if byte ≤ 0xEF then some ⟨byte.toNat - 0xE0, 0x80, 0xBF, 1⟩
  else if byte = 0xF0 then some ⟨0, 0x90, 0xBF, 2⟩
  else if byte ≤ 0xF3 then some ⟨byte.toNat - 0xF0, 0x80, 0xBF, 2⟩
  else if byte = 0xF4 then some ⟨4, 0x80, 0x8F, 2⟩
  else none

/-- A code point with the six bits of a further byte appended. -/
def pushBits (point : Nat) (byte : UInt8) : Nat :=
  point * 64 + byte.toNat % 64

/--
The character whose bits so far are `point` and which still needs `count` bytes, or none where one
of them is missing; with the bytes that are left.
-/
def readTails : (count point : Nat) → List UInt8 → Option Char × List UInt8
  | 0, point, bytes => (some (Char.ofNat point), bytes)
  | _ + 1, _, [] => (none, [])
  | count + 1, point, byte :: bytes =>
    if isTail byte then readTails count (pushBits point byte) bytes else (none, byte :: bytes)

/--
The character that begins with the byte `first`, or none for the longest part of an ill-formed
sequence; with the bytes that are left.
-/
def readChar (first : UInt8) (bytes : List UInt8) : Option Char × List UInt8 :=
  if first < 0x80 then
    (some (Char.ofNat first.toNat), bytes)
  else
    match lead? first, bytes with
    | some lead, second :: bytes =>
      if lead.low ≤ second && second ≤ lead.high then
        readTails lead.tails (pushBits lead.bits second) bytes
      else
        (none, second :: bytes)
    | _, bytes => (none, bytes)

theorem length_readTails_le (count point : Nat) (bytes : List UInt8) :
    (readTails count point bytes).2.length ≤ bytes.length := by
  induction count generalizing point bytes with
  | zero => simp [readTails]
  | succ count inductionHypothesis =>
    cases bytes with
    | nil => simp [readTails]
    | cons byte bytes =>
      have shorter := inductionHypothesis (pushBits point byte) bytes
      simp only [readTails]
      split
      · simp only [List.length_cons]
        omega
      · simp

theorem length_readChar_le (first : UInt8) (bytes : List UInt8) :
    (readChar first bytes).2.length ≤ bytes.length := by
  unfold readChar
  split
  · simp
  · split
    · split
      · exact Nat.le_trans (length_readTails_le _ _ _) (by simp)
      · simp
    · simp

def decode? : List UInt8 → List (Option Char)
  | [] => []
  | first :: bytes => (readChar first bytes).1 :: decode? (readChar first bytes).2
termination_by bytes => bytes.length
decreasing_by
  have shorter := length_readChar_le first bytes
  simp only [List.length_cons]
  omega

/-- The character that stands for bytes which belong to no character. -/
def replacement : Char := '\uFFFD'

/-- Whether every byte belongs to a character. -/
def isWellFormed (bytes : List UInt8) : Bool :=
  (decode? bytes).all Option.isSome

/-- The text of a byte string, with replacements where the bytes are ill-formed. -/
def decode (bytes : List UInt8) : String :=
  String.ofList ((decode? bytes).map (·.getD replacement))

end Concord.Text.Utf8
