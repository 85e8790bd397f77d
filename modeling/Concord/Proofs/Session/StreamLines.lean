import Mathlib.Data.List.Basic
import Concord.Proofs.Text.Blanks
import Concord.Proofs.Text.Decoding
import Concord.Session.Reading

/-!
# Lines of a stream

A stream is cut into lines before it is decoded.  The same lines come of decoding it first, whatever
bytes are in it, since no replacement stands for a line feed or for a carriage return.
-/

namespace Concord

open Text.Utf8 (Decodes decode decode? encode replacement)

/-! ## Lines of a text -/

namespace Text

/-- A list without its last element, if this is the given one. -/
def dropFinal {α : Type} [DecidableEq α] (element : α) (list : List α) : List α :=
  if list.getLast? = some element then list.dropLast else list

/-- The lines of a text: cut at the line feeds, and without the carriage returns that end them. -/
def lines (characters : List Char) : List String :=
  (dropFinal [] (characters.splitOn '\n')).map fun line => String.ofList (dropFinal '\r' line)

section DropFinal

variable {α β : Type} [DecidableEq α] [DecidableEq β] {element : α}

@[simp]
theorem dropFinal_append_self (element : α) (list : List α) :
    dropFinal element (list ++ [element]) = list := by
  simp [dropFinal]

theorem dropFinal_of_ne {list : List α} (other : list.getLast? ≠ some element) :
    dropFinal element list = list :=
  if_neg other

theorem dropFinal_cons (first : α) {others : List α} (more : others ≠ []) :
    dropFinal element (first :: others) = first :: dropFinal element others := by
  have last : (first :: others).getLast? = others.getLast? := by
    rw [List.getLast?_cons, List.getLast?_eq_some_getLast more, Option.getD_some]
  unfold dropFinal
  rw [last, List.dropLast_cons_of_ne_nil more]
  split <;> rfl

theorem dropFinal_map (element : α) (f : α → β)
    (only : ∀ other, f other = f element → other = element)
    (list : List α) : dropFinal (f element) (list.map f) = (dropFinal element list).map f := by
  rcases List.eq_nil_or_concat list with rfl | ⟨front, last, rfl⟩
  · rfl
  · by_cases same : last = element
    · simp [same]
    · have other : f last ≠ f element := fun image => same (only last image)
      rw [dropFinal_of_ne (by simpa using other), dropFinal_of_ne (by simpa using same)]

end DropFinal

@[simp]
theorem lines_nil : lines [] = [] := by
  simp [lines, dropFinal]

theorem lines_of_not_mem {line : List Char} (unbroken : '\n' ∉ line) (nonempty : line ≠ []) :
    lines line = [String.ofList (dropFinal '\r' line)] := by
  have kept : [line].getLast? ≠ some [] := by
    rw [List.getLast?_singleton]
    exact fun empty => nonempty (Option.some.inj empty)
  rw [lines, List.splitOn_eq_singleton unbroken, dropFinal_of_ne kept, List.map_singleton]

theorem lines_append_cons {line : List Char} (unbroken : '\n' ∉ line) (behind : List Char) :
    lines (line ++ '\n' :: behind) = String.ofList (dropFinal '\r' line) :: lines behind := by
  rw [lines, List.splitOn_append_cons_self_of_not_mem unbroken,
    dropFinal_cons _ (List.splitOn_ne_nil _ _), List.map_cons, lines]

namespace Utf8

/-! ## Terminators among bytes -/

theorem toList_decode (bytes : List UInt8) :
    (decode bytes).toList = (decode? bytes).map (·.getD replacement) := by
  rw [decode, String.toList_ofList]

theorem decode_append_lineFeed (front behind : List UInt8) :
    (decode (front ++ RawLine.lineFeed :: behind)).toList =
      (decode front).toList ++ '\n' :: (decode behind).toList := by
  have ascii : RawLine.lineFeed < 0x80 := by decide
  simp only [toList_decode, decode?_append_ascii front behind ascii, List.map_append, List.map_cons]
  rfl

theorem lineFeed_not_mem_decode {bytes : List UInt8} (unbroken : RawLine.lineFeed ∉ bytes) :
    '\n' ∉ (decode bytes).toList := by
  intro member
  exact unbroken (toUInt8_mem_of_mem_decode member (by decide))

theorem decode_ne_nil {bytes : List UInt8} (nonempty : bytes ≠ []) :
    (decode bytes).toList ≠ [] := by
  rw [toList_decode]
  intro empty
  cases bytes with
  | nil => exact nonempty rfl
  | cons first others =>
    rw [decode?] at empty
    cases empty

/-- A carriage return at the end of bytes is one at the end of what they stand for, and no other. -/
theorem decode?_dropReturn (bytes : List UInt8) :
    decode? (RawLine.dropReturn bytes) = dropFinal (some '\r') (decode? bytes) := by
  unfold RawLine.dropReturn
  split
  · next last =>
    have whole := List.dropLast_append_getLast? _ last
    have ascii : RawLine.carriageReturn < 0x80 := by decide
    have ended := decode?_append_ascii bytes.dropLast [] ascii
    rw [whole, decode?] at ended
    rw [ended]
    exact (dropFinal_append_self _ _).symm
  · next other =>
    rw [dropFinal_of_ne]
    intro last
    have decodes : Decodes bytes ((decode? bytes).dropLast ++ [some '\r']) :=
      decodes_iff.mpr (List.dropLast_append_getLast? _ last)
    rcases decodes.exists_append with ⟨front, behind, rfl, -, final⟩
    rw [final.eq_encode_of_single] at other
    exact other List.getLast?_concat

theorem decode_dropReturn (bytes : List UInt8) :
    decode (RawLine.dropReturn bytes) = String.ofList (dropFinal '\r' (decode bytes).toList) := by
  have only : ∀ found : Option Char, found.getD replacement = '\r' → found = some '\r' := by
    rintro (_ | c) same
    · cases same
    · exact congrArg some same
  rw [toList_decode, decode, decode?_dropReturn]
  exact congrArg String.ofList (dropFinal_map (some '\r') (·.getD replacement) only _).symm

end Utf8

end Text

/-! ## Readings of a stream -/

namespace RawLine

theorem passes_of_not_mem {bytes : List UInt8} (unbroken : lineFeed ∉ bytes) :
    ∀ byte ∈ bytes, decide (byte ≠ lineFeed) = true := by
  intro byte member
  exact decide_eq_true fun same => unbroken (same ▸ member)

/-- Bytes without line feeds, and a line feed behind them, are read as one line. -/
theorem next?_append {front : List UInt8} (unbroken : lineFeed ∉ front) (behind : List UInt8) :
    next? (front ++ lineFeed :: behind) = some (⟨front, true⟩, behind) := by
  have stops : ∀ byte ∈ (lineFeed :: behind).head?, decide (byte ≠ lineFeed) = false := by
    rintro byte ⟨⟩
    rfl
  rcases Text.split_iff.mpr ⟨rfl, passes_of_not_mem unbroken, stops⟩ with ⟨taken, dropped⟩
  cases whole : front ++ lineFeed :: behind with
  | nil => simp at whole
  | cons first others =>
    simp only [next?, ← whole, taken, dropped]
    rfl

/-- The bytes at the end of a stream are a line without a line feed. -/
theorem next?_of_not_mem {bytes : List UInt8} (unbroken : lineFeed ∉ bytes)
    (nonempty : bytes ≠ []) : next? bytes = some (⟨bytes, false⟩, []) := by
  have whole := (List.append_nil bytes).symm
  rcases Text.split_iff.mpr ⟨whole, passes_of_not_mem unbroken, by simp⟩ with ⟨taken, dropped⟩
  cases bytes with
  | nil => exact absurd rfl nonempty
  | cons first others =>
    simp only [next?, taken, dropped]
    rfl

end RawLine

namespace Reading

open RawLine (lineFeed)
open Text (lines)

/-- What the call with this number, counted from zero, reads from a stream. -/
def nth (bytes : List UInt8) : Nat → Reading
  | 0 => (ofStream bytes).1
  | index + 1 => nth (ofStream bytes).2 index

/-- A stream gives these lines, one to a call, and its end to every later call. -/
structure Delivers (bytes : List UInt8) (lines : List String) : Prop where
  line : ∀ index (within : index < lines.length),
    ∃ repaired, nth bytes index = .line lines[index] repaired
  ended : ∀ index, lines.length ≤ index → nth bytes index = .endOfInput

theorem ofStream_append {front : List UInt8} (unbroken : lineFeed ∉ front) (behind : List UInt8) :
    ofStream (front ++ lineFeed :: behind) = (RawLine.streamed ⟨front, true⟩, behind) := by
  rw [ofStream, RawLine.next?_append unbroken behind]

theorem ofStream_of_not_mem {bytes : List UInt8} (unbroken : lineFeed ∉ bytes)
    (nonempty : bytes ≠ []) : ofStream bytes = (RawLine.streamed ⟨bytes, false⟩, []) := by
  rw [ofStream, RawLine.next?_of_not_mem unbroken nonempty]

/-- A line takes its own bytes from a stream and those behind it up to a line feed. -/
theorem snd_ofStream_append {line : List UInt8} (unbroken : lineFeed ∉ line)
    (behind : List UInt8) :
    (ofStream (line ++ behind)).2 = (behind.dropWhile (· ≠ lineFeed)).drop 1 := by
  have rest : ∀ bytes, (ofStream bytes).2 = (bytes.dropWhile (· ≠ lineFeed)).drop 1 := by
    rintro (_ | ⟨first, others⟩) <;> rfl
  rw [rest, List.dropWhile_append_of_pos (RawLine.passes_of_not_mem unbroken)]

theorem nth_nil (index : Nat) : nth [] index = .endOfInput := by
  induction index with
  | zero => rfl
  | succ index inductionHypothesis => exact inductionHypothesis

theorem delivers_nil : Delivers [] [] :=
  ⟨fun _ within => absurd within (Nat.not_lt_zero _), fun index _ => nth_nil index⟩

theorem delivers_cons {bytes behind : List UInt8} {text : String} {others : List String}
    {repaired : Bool} (read : ofStream bytes = (.line text repaired, behind))
    (delivers : Delivers behind others) : Delivers bytes (text :: others) := by
  constructor
  · intro index within
    cases index with
    | zero => exact ⟨repaired, congrArg Prod.fst read⟩
    | succ index =>
      rw [nth, read]
      exact delivers.line index (Nat.lt_of_succ_lt_succ within)
  · intro index beyond
    cases index with
    | zero => exact absurd beyond (Nat.not_succ_le_zero _)
    | succ index =>
      rw [nth, read]
      exact delivers.ended index (Nat.le_of_succ_le_succ beyond)

/-- The lines that a stream gives are those of the text that all of its bytes stand for. -/
theorem delivers_lines (bytes : List UInt8) : Delivers bytes (lines (decode bytes).toList) := by
  induction length : bytes.length using Nat.strong_induction_on generalizing bytes with
  | _ size inductionHypothesis =>
    by_cases broken : lineFeed ∈ bytes
    · rcases List.eq_append_cons_of_mem broken with ⟨front, behind, rfl, unbroken⟩
      rw [Text.Utf8.decode_append_lineFeed,
        Text.lines_append_cons (Text.Utf8.lineFeed_not_mem_decode unbroken),
        ← Text.Utf8.decode_dropReturn]
      refine delivers_cons (ofStream_append unbroken behind) (inductionHypothesis _ ?_ behind rfl)
      rw [← length, List.length_append, List.length_cons]
      omega
    · by_cases empty : bytes = []
      · rw [empty]
        simpa [decode, decode?] using delivers_nil
      · rw [Text.lines_of_not_mem (Text.Utf8.lineFeed_not_mem_decode broken)
          (Text.Utf8.decode_ne_nil empty), ← Text.Utf8.decode_dropReturn]
        exact delivers_cons (ofStream_of_not_mem broken empty) delivers_nil

/-- Other bytes within one line do not change what the other calls read. -/
theorem nth_of_other_line (front behind : List UInt8) {line other : List UInt8}
    (unbroken : lineFeed ∉ line) (otherUnbroken : lineFeed ∉ other) {index : Nat}
    (elsewhere : index ≠ front.count lineFeed) :
    nth (front ++ line ++ behind) index = nth (front ++ other ++ behind) index := by
  induction index generalizing front with
  | zero =>
    have broken : lineFeed ∈ front := List.count_pos_iff.mp (Nat.pos_of_ne_zero elsewhere.symm)
    rcases List.eq_append_cons_of_mem broken with ⟨before, after, rfl, first⟩
    simp only [List.append_assoc, List.cons_append, nth, ofStream_append first]
  | succ index inductionHypothesis =>
    by_cases broken : lineFeed ∈ front
    · rcases List.eq_append_cons_of_mem broken with ⟨before, after, rfl, first⟩
      have later : index ≠ after.count lineFeed := by
        rintro rfl
        apply elsewhere
        rw [List.count_append, List.count_eq_zero_of_not_mem first, List.count_cons_self,
          Nat.zero_add]
      have same := inductionHypothesis after later
      simp only [List.append_assoc] at same
      simp only [List.append_assoc, List.cons_append, nth, ofStream_append first, same]
    · have outside : lineFeed ∉ front ++ line := List.not_mem_append broken unbroken
      have otherOutside : lineFeed ∉ front ++ other := List.not_mem_append broken otherUnbroken
      rw [nth, nth, snd_ofStream_append outside, snd_ofStream_append otherOutside]

end Reading

/-- A text that can be read back from a stream as one line. -/
structure TerminatedLine where
  text : String
  /-- Whether a carriage return is written before the line feed. -/
  returned : Bool
  unbroken : '\n' ∉ text.toList
  bare : text.toList.getLast? ≠ some '\r'

namespace TerminatedLine

def written (line : TerminatedLine) : String :=
  line.text ++ if line.returned then "\r\n" else "\n"

theorem lines_written_append (line : TerminatedLine) (behind : List Char) :
    Text.lines (line.written.toList ++ behind) = line.text :: Text.lines behind := by
  rw [written, String.toList_append, List.append_assoc]
  cases line.returned with
  | false =>
    refine (Text.lines_append_cons line.unbroken behind).trans ?_
    rw [Text.dropFinal_of_ne line.bare, String.ofList_toList]
  | true =>
    have unbroken : '\n' ∉ line.text.toList ++ ['\r'] :=
      List.not_mem_append line.unbroken (by decide)
    have cut := Text.lines_append_cons unbroken behind
    rw [Text.dropFinal_append_self, String.ofList_toList, List.append_assoc] at cut
    exact cut

theorem lines_join_written (written : List TerminatedLine) :
    Text.lines (String.join (written.map TerminatedLine.written)).toList =
      written.map TerminatedLine.text := by
  rw [String.toList_join, List.flatMap_map]
  induction written with
  | nil => rfl
  | cons line others inductionHypothesis =>
    rw [List.flatMap_cons, lines_written_append, inductionHypothesis, List.map_cons]

end TerminatedLine

namespace Reading

open RawLine (lineFeed)
open Text (lines)

/--
A stream gives the lines of the text that its bytes stand for, and nothing else can be made of the
bytes.  Bytes within one line have no part in the others, and texts that are written as lines are
read back.
-/
theorem delivers_decoded_lines :
    (∀ bytes, ∃ characters,
        (∀ others, Decodes bytes others ↔ others = characters) ∧
        Delivers bytes (lines (characters.map (·.getD '\uFFFD')))) ∧
      (∀ front line other behind : List UInt8, lineFeed ∉ line → lineFeed ∉ other →
        ∀ index, index ≠ front.count lineFeed →
          nth (front ++ line ++ behind) index = nth (front ++ other ++ behind) index) ∧
      ∀ written : List TerminatedLine,
        Delivers (encode (String.join (written.map TerminatedLine.written)))
          (written.map TerminatedLine.text) := by
  refine ⟨?_, ?_, ?_⟩
  · intro bytes
    refine ⟨decode? bytes, fun _ => Text.Utf8.decodes_iff, ?_⟩
    have delivers := delivers_lines bytes
    rw [Text.Utf8.toList_decode] at delivers
    exact delivers
  · intro front line other behind unbroken otherUnbroken index elsewhere
    exact nth_of_other_line front behind unbroken otherUnbroken elsewhere
  · intro written
    have delivers := delivers_lines (encode (String.join (written.map TerminatedLine.written)))
    rw [Text.Utf8.decode_encode, TerminatedLine.lines_join_written] at delivers
    exact delivers

/-- A byte of no character, a character cut off before a carriage return, and an unended line. -/
theorem delivers_decoded_lines_of_cut_off_character :
    let front : List UInt8 := [0xFF, 10]
    let line : List UInt8 := [0xE2, 0x82, 13]
    let other : List UInt8 := [0xC3, 0xA9]
    let behind : List UInt8 := [10, 0x62]
    lineFeed ∉ line ∧ lineFeed ∉ other ∧ 2 ≠ front.count lineFeed ∧
      nth (front ++ line ++ behind) 2 = nth (front ++ other ++ behind) 2 ∧
      Delivers (front ++ line ++ behind) ["\uFFFD", "\uFFFD", "b"] ∧
      Delivers (encode "a\r\n\n") ["a", ""] := by
  intro front line other behind
  have unbroken : lineFeed ∉ line := by decide
  have otherUnbroken : lineFeed ∉ other := by decide
  have elsewhere : 2 ≠ front.count lineFeed := by decide
  have same := delivers_decoded_lines.2.1 front line other behind unbroken otherUnbroken 2 elsewhere
  refine ⟨unbroken, otherUnbroken, elsewhere, same, ?_, ?_⟩
  · rcases delivers_decoded_lines.1 (front ++ line ++ behind) with ⟨characters, only, delivers⟩
    have found : decode? (front ++ line ++ behind) =
        [none, some '\n', none, some '\r', some '\n', some 'b'] := by
      simp [front, line, behind, decode?, Text.Utf8.readChar, Text.Utf8.lead?, Text.Utf8.readTails,
        Text.Utf8.isTail]
    rw [← (only _).mp (Text.Utf8.decodes_iff.mpr found.symm)] at delivers
    exact delivers
  · exact delivers_decoded_lines.2.2
      [⟨"a", true, by decide, by decide⟩, ⟨"", false, by decide, by decide⟩]

end Reading

end Concord
