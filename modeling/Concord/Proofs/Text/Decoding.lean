import Mathlib.Data.List.Basic
import Concord.Proofs.Text.Bytes

/-!
# Decoding

Which characters bytes stand for can be said by the encoding alone.  Where a character stands, it is
its encoding; where none can be read, one replacement stands for the longest bytes with which some
character begins, or for a single byte.  The decoder gives exactly this.  Such a part never
reaches over a byte below 128, so that bytes can be cut at one before they are decoded.
-/

namespace Concord.Text.Utf8

/-! ## Sequences of several bytes -/

/--
The first two bytes of a sequence and the bits they stand for, by the number of bytes behind them.
The bounds keep out what has a shorter form, the surrogates and what lies beyond the last character.
-/
inductive Heads : (first second : UInt8) → (tails point : Nat) → Prop
  | two {first second : UInt8} {point : Nat} (low : 0x80 ≤ point) (high : point < 0x800)
    (head : first.toNat = 0xC0 + point / 64) (next : second.toNat = 0x80 + point % 64) :
    Heads first second 0 point
  | three {first second : UInt8} {point : Nat} (low : 0x20 ≤ point) (high : point < 0x400)
    (scalar : point < 0x360 ∨ 0x380 ≤ point)
    (head : first.toNat = 0xE0 + point / 64) (next : second.toNat = 0x80 + point % 64) :
    Heads first second 1 point
  | four {first second : UInt8} {point : Nat} (low : 0x10 ≤ point) (high : point < 0x110)
    (head : first.toNat = 0xF0 + point / 64) (next : second.toNat = 0x80 + point % 64) :
    Heads first second 2 point

theorem toNat_ofNat_of_isValidChar {number : Nat} (valid : number.isValidChar) :
    (Char.ofNat number).toNat = number := by
  rw [Char.ofNat, dif_pos valid]
  rfl

theorem heads_of_lead? {first second : UInt8} {lead : Lead} (begins : lead? first = some lead)
    (low : lead.low ≤ second) (high : second ≤ lead.high) :
    Heads first second lead.tails (pushBits lead.bits second) := by
  have small := first.toNat_lt
  unfold lead? at begins
  simp only [UInt8.lt_iff_toNat_lt, UInt8.le_iff_toNat_le, ← UInt8.toNat_inj,
    UInt8.toNat_ofNat] at begins low high
  split_ifs at begins <;> obtain rfl := Option.some.inj begins <;>
    constructor <;> simp only [pushBits, UInt8.toNat_ofNat] at * <;> omega

theorem Heads.exists_lead? {first second : UInt8} {tails point : Nat}
    (heads : Heads first second tails point) :
    ∃ lead, lead? first = some lead ∧ lead.low ≤ second ∧ second ≤ lead.high ∧
      lead.tails = tails ∧ pushBits lead.bits second = point := by
  unfold lead?
  simp only [UInt8.lt_iff_toNat_lt, UInt8.le_iff_toNat_le, ← UInt8.toNat_inj]
  split_ifs <;> cases heads <;> simp [pushBits] at * <;> omega

theorem isTail_iff {byte : UInt8} :
    isTail byte = true ↔ 0x80 ≤ byte.toNat ∧ byte.toNat ≤ 0xBF := by
  simp [isTail, UInt8.le_iff_toNat_le]

theorem Heads.isValidChar {first second : UInt8} {count point : Nat} {tails : List UInt8}
    (heads : Heads first second count point) (complete : tails.length = count) :
    (tails.foldl pushBits point).isValidChar := by
  unfold Nat.isValidChar
  cases heads with
  | two low high head next =>
    obtain rfl := List.length_eq_zero_iff.mp complete
    simp only [List.foldl_nil]
    omega
  | three low high scalar head next =>
    obtain ⟨tail, rfl⟩ := List.length_eq_one_iff.mp complete
    simp only [List.foldl_cons, List.foldl_nil, pushBits]
    omega
  | four low high head next =>
    obtain ⟨tail, last, rfl⟩ := List.length_eq_two.mp complete
    simp only [List.foldl_cons, List.foldl_nil, pushBits]
    omega

/-- Bytes within their bounds are the encoding of the character that has their bits. -/
theorem Heads.utf8EncodeChar_eq {first second : UInt8} {count point : Nat} {tails : List UInt8}
    (heads : Heads first second count point) (complete : tails.length = count)
    (following : ∀ byte ∈ tails, isTail byte = true) :
    String.utf8EncodeChar (Char.ofNat (tails.foldl pushBits point)) = first :: second :: tails := by
  have number := toNat_ofNat_of_isValidChar (heads.isValidChar complete)
  unfold String.utf8EncodeChar
  rw [Char.toNat] at number
  generalize Char.ofNat (tails.foldl pushBits point) = c at number ⊢
  simp only
  cases heads with
  | two low high head next =>
    obtain rfl := List.length_eq_zero_iff.mp complete
    rw [List.foldl_nil] at number
    rw [if_neg (by omega), if_pos (by omega)]
    simp only [List.cons.injEq, ← UInt8.toNat_inj, UInt8.toNat_ofNat', and_true]
    omega
  | three low high scalar head next =>
    obtain ⟨tail, rfl⟩ := List.length_eq_one_iff.mp complete
    simp only [List.forall_mem_cons, isTail_iff] at following
    simp only [List.foldl_cons, List.foldl_nil, pushBits] at number
    rw [if_neg (by omega), if_neg (by omega), if_pos (by omega)]
    simp only [List.cons.injEq, ← UInt8.toNat_inj, UInt8.toNat_ofNat', and_true]
    omega
  | four low high head next =>
    obtain ⟨tail, last, rfl⟩ := List.length_eq_two.mp complete
    simp only [List.forall_mem_cons, isTail_iff] at following
    simp only [List.foldl_cons, List.foldl_nil, pushBits] at number
    rw [if_neg (by omega), if_neg (by omega), if_neg (by omega)]
    simp only [List.cons.injEq, ← UInt8.toNat_inj, UInt8.toNat_ofNat', and_true]
    omega

/-- Every character that is not below 128 has such bytes. -/
theorem exists_heads {c : Char} (wide : 0x80 ≤ c.toNat) :
    ∃ (first second : UInt8) (tails : List UInt8) (point : Nat),
      Heads first second tails.length point ∧
      (∀ byte ∈ tails, isTail byte = true) ∧ c = Char.ofNat (tails.foldl pushBits point) := by
  have valid : c.val.toNat < 0xD800 ∨ 0xDFFF < c.val.toNat ∧ c.val.toNat < 0x110000 := c.valid
  rw [← c.ofNat_toNat]
  change c.toNat < 0xD800 ∨ 0xDFFF < c.toNat ∧ c.toNat < 0x110000 at valid
  generalize c.toNat = number at *
  rcases Nat.lt_or_ge number 0x800 with two | wider
  · refine ⟨.ofNat (0xC0 + number / 64), .ofNat (0x80 + number % 64), [], number,
      .two wide two ?_ ?_, by simp, rfl⟩ <;> simp <;> omega
  · rcases Nat.lt_or_ge number 0x10000 with three | four
    · refine ⟨.ofNat (0xE0 + number / 4096), .ofNat (0x80 + number / 64 % 64),
        [.ofNat (0x80 + number % 64)], number / 64,
        .three (by omega) (by omega) (by omega) ?_ ?_, ?_, congrArg Char.ofNat ?_⟩ <;>
        simp [isTail_iff, pushBits] <;> omega
    · refine ⟨.ofNat (0xF0 + number / 262144), .ofNat (0x80 + number / 4096 % 64),
        [.ofNat (0x80 + number / 64 % 64), .ofNat (0x80 + number % 64)], number / 4096,
        .four (by omega) (by omega) ?_ ?_, ?_, congrArg Char.ofNat ?_⟩ <;>
        simp [isTail_iff, pushBits] <;> omega

/-! ## One character -/

/-- Bytes within their bounds are read, and the bytes behind them are left. -/
theorem readTails_append {point : Nat} {tails : List UInt8} (behind : List UInt8)
    (following : ∀ byte ∈ tails, isTail byte = true) :
    readTails tails.length point (tails ++ behind) =
      (some (Char.ofNat (tails.foldl pushBits point)), behind) := by
  induction tails generalizing point with
  | nil => rfl
  | cons byte tails inductionHypothesis =>
    rcases List.forall_mem_cons.mp following with ⟨now, later⟩
    simpa [readTails, now] using inductionHypothesis later

theorem readTails_cases (count point : Nat) (bytes : List UInt8) :
    ∃ tails behind, bytes = tails ++ behind ∧ (∀ byte ∈ tails, isTail byte = true) ∧
      (tails.length = count ∧
          readTails count point bytes = (some (Char.ofNat (tails.foldl pushBits point)), behind) ∨
        tails.length < count ∧ (∀ byte ∈ behind.head?, isTail byte = false) ∧
          readTails count point bytes = (none, behind)) := by
  induction count generalizing point bytes with
  | zero => exact ⟨[], bytes, rfl, by simp, .inl ⟨rfl, rfl⟩⟩
  | succ count inductionHypothesis =>
    cases bytes with
    | nil => exact ⟨[], [], rfl, by simp, .inr ⟨by simp, by simp, rfl⟩⟩
    | cons byte bytes =>
      by_cases tail : isTail byte = true
      · rcases inductionHypothesis (pushBits point byte) bytes with
          ⟨tails, behind, rfl, following, ends⟩
        refine ⟨byte :: tails, behind, rfl, List.forall_mem_cons.mpr ⟨tail, following⟩, ?_⟩
        simpa [readTails, tail] using ends
      · refine ⟨[], byte :: bytes, rfl, by simp, .inr ⟨by simp, by simpa using tail, ?_⟩⟩
        simp [readTails, tail]

theorem readChar_of_ascii {first : UInt8} (ascii : first < 0x80) (bytes : List UInt8) :
    readChar first bytes = (some (Char.ofNat first.toNat), bytes) := by
  unfold readChar
  rw [if_pos ascii]

theorem cons_eq_of_ascii {first : UInt8} (ascii : first < 0x80) (bytes : List UInt8) :
    first :: bytes = String.utf8EncodeChar (Char.ofNat first.toNat) ++ bytes := by
  have small : first.toNat < 0x80 := UInt8.lt_iff_toNat_lt.mp ascii
  have number : (Char.ofNat first.toNat).toNat = first.toNat :=
    toNat_ofNat_of_isValidChar (.inl (by omega))
  have narrow : (Char.ofNat first.toNat).toNat < 0x80 := number.symm ▸ small
  rw [utf8EncodeChar_of_ascii narrow, List.singleton_append, List.cons.injEq, ← UInt8.toNat_inj,
    toNat_toUInt8 narrow, number]
  exact ⟨rfl, rfl⟩

theorem Heads.not_ascii {first second : UInt8} {count point : Nat}
    (heads : Heads first second count point) : ¬ first < 0x80 := by
  simp only [UInt8.lt_iff_toNat_lt, UInt8.toNat_ofNat]
  cases heads <;> omega

theorem Heads.readChar_eq {first second : UInt8} {count point : Nat}
    (heads : Heads first second count point) (bytes : List UInt8) :
    readChar first (second :: bytes) = readTails count point bytes := by
  rcases heads.exists_lead? with ⟨lead, begins, low, high, rfl, rfl⟩
  simp [readChar, heads.not_ascii, begins, low, high]

theorem readChar_of_not_heads {first : UInt8} {bytes : List UInt8} (wide : ¬ first < 0x80)
    (broken : ∀ second ∈ bytes.head?, ∀ count point, ¬ Heads first second count point) :
    readChar first bytes = (none, bytes) := by
  unfold readChar
  rw [if_neg wide]
  split
  · next lead second bytes begins =>
    rw [if_neg]
    intro within
    rw [Bool.and_eq_true, decide_eq_true_iff, decide_eq_true_iff] at within
    exact broken second rfl _ _ (heads_of_lead? begins within.1 within.2)
  · rfl

theorem readChar_utf8EncodeChar (c : Char) (behind : List UInt8) :
    ∃ first others, String.utf8EncodeChar c = first :: others ∧
      readChar first (others ++ behind) = (some c, behind) := by
  rcases Nat.lt_or_ge c.toNat 0x80 with ascii | wide
  · refine ⟨c.toUInt8, [], utf8EncodeChar_of_ascii ascii, ?_⟩
    rw [readChar_of_ascii, toNat_toUInt8 ascii, Char.ofNat_toNat, List.nil_append]
    rw [UInt8.lt_iff_toNat_lt, toNat_toUInt8 ascii]
    exact ascii
  · rcases exists_heads wide with ⟨first, second, tails, point, heads, following, rfl⟩
    refine ⟨first, second :: tails, heads.utf8EncodeChar_eq rfl following, ?_⟩
    rw [List.cons_append, heads.readChar_eq, readTails_append behind following]

/-- The encoding of a character is decoded to it, whatever stands behind. -/
theorem decode?_utf8EncodeChar_append (c : Char) (behind : List UInt8) :
    decode? (String.utf8EncodeChar c ++ behind) = some c :: decode? behind := by
  rcases readChar_utf8EncodeChar c behind with ⟨first, others, spelled, read⟩
  rw [spelled, List.cons_append, decode?, read]

/-- Whether a character begins with these bytes. -/
def Begins (bytes : List UInt8) : Prop :=
  ∃ c, bytes <+: String.utf8EncodeChar c

theorem Heads.begins {first second : UInt8} {count point : Nat} {tails : List UInt8}
    (heads : Heads first second count point) (following : ∀ byte ∈ tails, isTail byte = true)
    (short : tails.length ≤ count) : Begins (first :: second :: tails) := by
  let filled := tails ++ List.replicate (count - tails.length) 0x80
  have complete : filled.length = count := by
    rw [List.length_append, List.length_replicate]
    omega
  have all : ∀ byte ∈ filled, isTail byte = true := by
    intro byte member
    rcases List.mem_append.mp member with given | added
    · exact following byte given
    · rw [List.eq_of_mem_replicate added]
      rfl
  refine ⟨Char.ofNat (filled.foldl pushBits point), ?_⟩
  rw [heads.utf8EncodeChar_eq complete all]
  exact List.prefix_append (first :: second :: tails) _

theorem Begins.exists_heads {first second : UInt8} {tails : List UInt8}
    (begins : Begins (first :: second :: tails)) :
    (∃ count point, Heads first second count point) ∧ ∀ byte ∈ tails, isTail byte = true := by
  rcases begins with ⟨c, spelled⟩
  rcases Nat.lt_or_ge c.toNat 0x80 with ascii | wide
  · rw [utf8EncodeChar_of_ascii ascii] at spelled
    simpa using spelled.length_le
  · rcases Utf8.exists_heads wide with ⟨head, next, others, point, heads, following, rfl⟩
    rw [heads.utf8EncodeChar_eq rfl following, List.cons_prefix_cons,
      List.cons_prefix_cons] at spelled
    rcases spelled with ⟨rfl, rfl, fore⟩
    exact ⟨⟨_, _, heads⟩, fun byte member => following byte (fore.subset member)⟩

theorem readChar_of_spelled {c : Char} {first : UInt8} {bytes : List UInt8}
    (fore : String.utf8EncodeChar c <+: first :: bytes) : (readChar first bytes).1 = some c := by
  rcases fore with ⟨behind, spelled⟩
  rcases readChar_utf8EncodeChar c behind with ⟨head, others, encoded, read⟩
  rw [encoded, List.cons_append, List.cons.injEq] at spelled
  rcases spelled with ⟨rfl, rfl⟩
  rw [read]

theorem not_spelled_of_readChar {first : UInt8} {bytes : List UInt8}
    (fails : (readChar first bytes).1 = none) (c : Char) :
    ¬ String.utf8EncodeChar c <+: first :: bytes := by
  intro fore
  rw [readChar_of_spelled fore] at fails
  cases fails

/-! ## Whole texts -/

/--
Bytes that one replacement stands for, and the bytes behind them.  No character can be read where
they begin, and they are the longest bytes there with which some character begins, or a single byte.
-/
structure IllFormed (part behind : List UInt8) : Prop where
  unread : ∀ c, ¬ String.utf8EncodeChar c <+: part ++ behind
  nonempty : part ≠ []
  begins : part.length = 1 ∨ Begins part
  longest : ∀ longer, longer <+: part ++ behind → Begins longer → longer.length ≤ part.length

/-- What bytes stand for: characters, and none for each part that is ill-formed. -/
inductive Decodes : List UInt8 → List (Option Char) → Prop
  | nil : Decodes [] []
  | character (c : Char) {bytes : List UInt8} {characters : List (Option Char)}
    (behind : Decodes bytes characters) :
    Decodes (String.utf8EncodeChar c ++ bytes) (some c :: characters)
  | illFormed {part bytes : List UInt8} {characters : List (Option Char)}
    (broken : IllFormed part bytes) (behind : Decodes bytes characters) :
    Decodes (part ++ bytes) (none :: characters)

/-- Bytes at a place that are longer than some others there go on with the byte behind those. -/
theorem exists_of_longer {part behind longer : List UInt8} (fore : longer <+: part ++ behind)
    (long : part.length < longer.length) :
    ∃ byte more, byte ∈ behind.head? ∧ longer = part ++ byte :: more := by
  have shared := List.prefix_append part behind
  rcases List.prefix_of_prefix_length_le shared fore (Nat.le_of_lt long) with ⟨more, rfl⟩
  rw [List.prefix_append_right_inj] at fore
  cases more with
  | nil => simp at long
  | cons byte more =>
    rcases fore with ⟨others, rfl⟩
    exact ⟨byte, more, rfl, rfl⟩

theorem illFormed_of_not_heads {first : UInt8} {bytes : List UInt8}
    (unread : ∀ c, ¬ String.utf8EncodeChar c <+: first :: bytes)
    (broken : ∀ second ∈ bytes.head?, ∀ count point, ¬ Heads first second count point) :
    IllFormed [first] bytes := by
  refine ⟨unread, List.cons_ne_nil _ _, .inl rfl, ?_⟩
  intro longer fore begins
  by_contra long
  rcases exists_of_longer fore (Nat.not_le.mp long) with ⟨second, more, next, rfl⟩
  rcases begins.exists_heads with ⟨⟨count, point, heads⟩, -⟩
  exact broken second next count point heads

theorem Heads.illFormed {first second : UInt8} {count point : Nat} {tails behind : List UInt8}
    (heads : Heads first second count point)
    (unread : ∀ c, ¬ String.utf8EncodeChar c <+: first :: second :: tails ++ behind)
    (following : ∀ byte ∈ tails, isTail byte = true) (short : tails.length < count)
    (ends : ∀ byte ∈ behind.head?, isTail byte = false) :
    IllFormed (first :: second :: tails) behind := by
  refine ⟨unread, List.cons_ne_nil _ _, .inr (heads.begins following (Nat.le_of_lt short)), ?_⟩
  intro longer fore begins
  by_contra long
  rcases exists_of_longer fore (Nat.not_le.mp long) with ⟨byte, more, next, rfl⟩
  have tail := begins.exists_heads.2 byte (List.mem_append_right tails List.mem_cons_self)
  rw [ends byte next] at tail
  cases tail

/-- What is read first of bytes that are not empty, and where the reading goes on. -/
theorem readChar_cases (first : UInt8) (bytes : List UInt8) :
    (∃ c behind, first :: bytes = String.utf8EncodeChar c ++ behind ∧
        readChar first bytes = (some c, behind)) ∨
      ∃ part behind, first :: bytes = part ++ behind ∧ IllFormed part behind ∧
        readChar first bytes = (none, behind) := by
  by_cases ascii : first < 0x80
  · exact .inl ⟨_, bytes, cons_eq_of_ascii ascii bytes, readChar_of_ascii ascii bytes⟩
  · by_cases headed : ∃ second others count point, bytes = second :: others ∧
      Heads first second count point
    · rcases headed with ⟨second, others, count, point, rfl, heads⟩
      have read := heads.readChar_eq others
      rcases readTails_cases count point others with
        ⟨tails, behind, rfl, following, ⟨complete, ends⟩ | ⟨short, ends, fails⟩⟩
      · refine .inl ⟨_, behind, ?_, read.trans ends⟩
        rw [heads.utf8EncodeChar_eq complete following]
        rfl
      · have unread := not_spelled_of_readChar (congrArg Prod.fst (read.trans fails))
        exact .inr ⟨first :: second :: tails, behind, rfl,
          heads.illFormed unread following short ends, read.trans fails⟩
    · have broken : ∀ second ∈ bytes.head?, ∀ count point, ¬ Heads first second count point := by
        intro second next count point heads
        rcases List.head?_eq_some_iff.mp next with ⟨others, rfl⟩
        exact headed ⟨second, others, count, point, rfl, heads⟩
      have fails := readChar_of_not_heads ascii broken
      have unread := not_spelled_of_readChar (congrArg Prod.fst fails)
      exact .inr ⟨[first], bytes, rfl, illFormed_of_not_heads unread broken, fails⟩

theorem IllFormed.length_le {part behind other left : List UInt8} (broken : IllFormed part behind)
    (alike : IllFormed other left) (same : part ++ behind = other ++ left) :
    other.length ≤ part.length := by
  rcases alike.begins with single | begins
  · rw [single]
    exact List.length_pos_iff.mpr broken.nonempty
  · exact broken.longest other (same ▸ List.prefix_append other left) begins

theorem IllFormed.readChar_eq {part behind : List UInt8} (broken : IllFormed part behind) :
    ∃ first others, part = first :: others ∧
      readChar first (others ++ behind) = (none, behind) := by
  rcases List.exists_cons_of_ne_nil broken.nonempty with ⟨first, others, rfl⟩
  refine ⟨first, others, rfl, ?_⟩
  rcases readChar_cases first (others ++ behind) with
    ⟨c, left, spelled, -⟩ | ⟨other, left, same, alike, read⟩
  · exact absurd ⟨left, spelled.symm⟩ (broken.unread c)
  · change first :: others ++ behind = other ++ left at same
    have length := Nat.le_antisymm (alike.length_le broken same.symm) (broken.length_le alike same)
    rw [read, (List.append_inj same length).2]

/-- The decoder gives what the bytes stand for and nothing else. -/
theorem decodes_iff {bytes : List UInt8} {characters : List (Option Char)} :
    Decodes bytes characters ↔ characters = decode? bytes := by
  constructor
  · intro decodes
    induction decodes with
    | nil => simp [decode?]
    | character c behind inductionHypothesis =>
      rw [decode?_utf8EncodeChar_append, inductionHypothesis]
    | illFormed broken behind inductionHypothesis =>
      rcases broken.readChar_eq with ⟨first, others, rfl, read⟩
      rw [List.cons_append, decode?, read, inductionHypothesis]
  · rintro rfl
    induction length : bytes.length using Nat.strong_induction_on generalizing bytes with
    | _ size inductionHypothesis =>
      cases bytes with
      | nil => 
        rw [decode?]
        exact .nil
      | cons first bytes =>
        have shorter := length_readChar_le first bytes
        rw [List.length_cons] at length
        rcases readChar_cases first bytes with
          ⟨c, behind, spelled, read⟩ | ⟨part, behind, spelled, broken, read⟩
        · rw [decode?, read, spelled]
          simp only [read] at shorter
          exact .character c (inductionHypothesis _ (by omega) rfl)
        · rw [decode?, read, spelled]
          simp only [read] at shorter
          exact .illFormed broken (inductionHypothesis _ (by omega) rfl)

theorem decodes_decode? (bytes : List UInt8) : Decodes bytes (decode? bytes) :=
  decodes_iff.mpr rfl

theorem decodes_encode (text : String) : Decodes (encode text) (text.toList.map some) := by
  rw [encode]
  induction text.toList with
  | nil => exact .nil
  | cons c rest inductionHypothesis =>
    rw [List.flatMap_cons, List.map_cons]
    exact .character c inductionHypothesis

/-- A text is decoded from its bytes. -/
@[simp]
theorem decode_encode (text : String) : decode (encode text) = text := by
  rw [decode, ← decodes_iff.mp (decodes_encode text), List.map_map]
  exact (congrArg String.ofList (List.map_id _)).trans (String.ofList_toList)

/-! ## Cutting before decoding -/

/-- The first bytes of a character do not reach over a byte below 128, unless they are this byte. -/
theorem Begins.stops_before_ascii {begun front behind : List UInt8} {byte : UInt8}
    (begins : Begins begun) (fore : begun <+: front ++ byte :: behind) (inside : front ≠ [])
    (ascii : byte < 0x80) : begun <+: front := by
  rcases Nat.lt_or_ge front.length begun.length with long | short
  · rcases exists_of_longer fore long with ⟨other, more, next, rfl⟩
    obtain rfl := Option.some.inj next
    rcases begins with ⟨c, spelled⟩
    rcases Nat.lt_or_ge c.toNat 0x80 with narrow | wide
    · rw [utf8EncodeChar_of_ascii narrow] at spelled
      have length := spelled.length_le
      have some := List.length_pos_iff.mpr inside
      simp only [List.length_append, List.length_cons, List.length_nil] at length
      omega
    · have within := spelled.subset (List.mem_append_right front List.mem_cons_self)
      exact absurd (le_of_mem_utf8EncodeChar wide within)
        (Nat.not_le.mpr (UInt8.lt_iff_toNat_lt.mp ascii))
  · exact List.prefix_of_prefix_length_le fore (List.prefix_append front _) short

theorem IllFormed.append_ascii {part front : List UInt8} {byte : UInt8}
    (broken : IllFormed part front) (ascii : byte < 0x80) (behind : List UInt8) :
    IllFormed part (front ++ byte :: behind) := by
  have inside : part ++ front ≠ [] := List.append_ne_nil_of_left_ne_nil broken.nonempty front
  refine ⟨?_, broken.nonempty, broken.begins, ?_⟩
  · intro c fore
    rw [← List.append_assoc] at fore
    have begins : Begins (String.utf8EncodeChar c) := ⟨c, List.prefix_refl _⟩
    exact broken.unread c (begins.stops_before_ascii fore inside ascii)
  · intro longer fore begins
    rw [← List.append_assoc] at fore
    exact broken.longest longer (begins.stops_before_ascii fore inside ascii) begins

theorem Decodes.append_ascii {front behind : List UInt8} {byte : UInt8}
    {before after : List (Option Char)} (decodes : Decodes front before) (ascii : byte < 0x80)
    (others : Decodes behind after) :
    Decodes (front ++ byte :: behind) (before ++ some (Char.ofNat byte.toNat) :: after) := by
  induction decodes with
  | nil =>
    rw [List.nil_append, cons_eq_of_ascii ascii]
    exact .character _ others
  | character c _ inductionHypothesis =>
    rw [List.append_assoc]
    exact .character c inductionHypothesis
  | illFormed broken _ inductionHypothesis =>
    rw [List.append_assoc]
    exact .illFormed (broken.append_ascii ascii behind) inductionHypothesis

/-- A byte below 128 is a character, and what stands before and behind it is decoded by itself. -/
theorem decode?_append_ascii (front behind : List UInt8) {byte : UInt8} (ascii : byte < 0x80) :
    decode? (front ++ byte :: behind) =
      decode? front ++ some (Char.ofNat byte.toNat) :: decode? behind :=
  (decodes_iff.mp ((decodes_decode? front).append_ascii ascii (decodes_decode? behind))).symm

theorem IllFormed.of_append {part front behind : List UInt8}
    (broken : IllFormed part (front ++ behind)) : IllFormed part front := by
  have fore : part ++ front <+: part ++ (front ++ behind) := by
    rw [← List.append_assoc]
    exact List.prefix_append _ behind
  exact ⟨fun c spelled => broken.unread c (spelled.trans fore), broken.nonempty, broken.begins,
    fun longer within => broken.longest longer (within.trans fore)⟩

/-- Bytes can be cut between any two characters that are decoded from them. -/
theorem Decodes.exists_append {bytes : List UInt8} {before after : List (Option Char)}
    (decodes : Decodes bytes (before ++ after)) :
    ∃ front behind, bytes = front ++ behind ∧ Decodes front before ∧ Decodes behind after := by
  induction before generalizing bytes with
  | nil => exact ⟨[], bytes, rfl, .nil, decodes⟩
  | cons found before inductionHypothesis =>
    cases decodes with
    | character c others =>
      rcases inductionHypothesis others with ⟨front, behind, rfl, first, second⟩
      exact ⟨_, behind, (List.append_assoc _ _ _).symm, .character c first, second⟩
    | illFormed broken others =>
      rcases inductionHypothesis others with ⟨front, behind, rfl, first, second⟩
      exact ⟨_, behind, (List.append_assoc _ _ _).symm, .illFormed broken.of_append first, second⟩

/-- A character below 128 that is decoded from bytes is one of the bytes. -/
theorem toUInt8_mem_of_mem_decode {bytes : List UInt8} {c : Char}
    (member : c ∈ (decode bytes).toList) (ascii : c.toNat < 0x80) : c.toUInt8 ∈ bytes := by
  rw [decode, String.toList_ofList, List.mem_map] at member
  rcases member with ⟨_ | found, read, rfl⟩
  · exact absurd ascii (by decide)
  · rcases List.append_of_mem read with ⟨before, after, whole⟩
    rcases (decodes_iff.mpr whole.symm).exists_append with ⟨front, behind, rfl, -, decodes⟩
    cases decodes with
    | character _ others =>
      exact List.mem_append_right front
        (List.mem_append_left _ ((mem_utf8EncodeChar_iff ascii).mpr rfl))

theorem Decodes.eq_encode_of_single {bytes : List UInt8} {c : Char}
    (decodes : Decodes bytes [some c]) : bytes = String.utf8EncodeChar c := by
  cases decodes with
  | character _ nothing =>
    cases nothing
    exact List.append_nil _

end Concord.Text.Utf8
