import Concord.Proofs.Terminal.ColouredLines

/-!
# The colours of any line

Whatever is typed, colours are only added to it.  A line is cut into pieces without loss; a piece
has no colour or stands between the sequence of its colour and the one that ends it; and each colour
covers what it is meant for: a string or an annotation from its opening character to the first one
that closes it, or the first word if no other colour comes before it.  So whoever deletes the
sequences has the line again.
-/

namespace Concord.Terminal

open Text (Blanks)
open Unicode (isAlphabetic)

/-! ## What a colour covers -/

/-- The characters between which a piece of this colour stands, unless it is a word. -/
def Paint.delimiters? : Paint → Option (Char × Char)
  | yellow => some ('"', '"')
  | cyan => some ('[', ']')
  | magenta => some ('<', '>')
  | _ => none

/-- What the colour is meant for stands before these characters. -/
inductive Covers : Paint → (covered behind : List Char) → Prop
  | closed
    (between : paint.delimiters? = some (opening, close))
    (unclosed : close ∉ body) :
    Covers paint (opening :: (body ++ [close])) behind
  | unclosed
    (between : paint.delimiters? = some (opening, close))
    (unclosed : close ∉ body) :
    Covers paint (opening :: body) []
  | verb
    (letter : isAlphabetic c = true)
    (letters : ∀ other ∈ others, isAlphabetic other = true)
    (ends : ∀ next ∈ behind.head?, isAlphabetic next = false) :
    Covers .boldGreen (c :: others) behind

/-- No letter is in a piece. -/
def Piece.Letterless (piece : Piece) : Prop :=
  ∀ c ∈ piece.characters, isAlphabetic c = false

/-- These are the pieces of a line with these characters. -/
structure Layout (characters : List Char) (pieces : List Piece) : Prop where
  whole : pieces.flatMap Piece.characters = characters
  coloured : ∀ before paint covered behind, pieces = before ++ ⟨some paint, covered⟩ :: behind →
    Covers paint covered (behind.flatMap Piece.characters)
  /-- A verb comes before every other colour. -/
  verbFirst : ∀ before covered behind, pieces = before ++ ⟨some .boldGreen, covered⟩ :: behind →
    (∀ piece ∈ before, piece.paint = none) ∧ ∀ piece ∈ behind, piece.paint ≠ some .boldGreen
  /-- Where no colour has come yet, there are no letters. -/
  letterless : ∀ before behind, pieces = before ++ behind →
    (∀ piece ∈ before, piece.paint = none) → ∀ piece ∈ before, piece.Letterless
  plain : ∀ piece ∈ pieces, piece.paint = none →
    '"' ∉ piece.characters ∧ '[' ∉ piece.characters ∧ '<' ∉ piece.characters

theorem delimiters?_of_opening? {c close : Char} {paint : Paint}
    (opens : opening? c = some (paint, close)) : paint.delimiters? = some (c, close) := by
  unfold opening? at opens
  split_ifs at opens with quote bracket angle
  · cases opens
    rw [quote]
    rfl
  · cases opens
    rw [bracket]
    rfl
  · cases opens
    rw [angle]
    rfl

theorem splitThrough_covers {c close : Char} {paint : Paint}
    (between : paint.delimiters? = some (c, close)) (rest : List Char) :
    Covers paint (c :: (splitThrough close rest).1) (splitThrough close rest).2 := by
  by_cases closed : close ∈ rest
  · rcases List.eq_append_cons_of_mem closed with ⟨inner, behind, rfl, unclosed⟩
    rw [splitThrough_append unclosed]
    exact .closed between unclosed
  · have others := Text.decide_ne_of_not_mem closed
    rcases Text.split_iff.mpr ⟨(List.append_nil rest).symm, others, by simp⟩ with ⟨taken, behind⟩
    simp only [splitThrough, taken, behind]
    exact .unclosed between closed

/-! ## The pieces of a line -/

/-- A piece that comes first, whether a verb is possible behind it, and what is left behind it. -/
inductive Starts : Bool → Piece → Bool → List Char → Prop
  | opened (opens : opening? c = some (paint, close)) :
    Starts verbPossible ⟨some paint, c :: (splitThrough close rest).1⟩ false
      (splitThrough close rest).2
  | verb (letter : isAlphabetic c = true) :
    Starts true ⟨some .boldGreen, c :: List.takeWhile isAlphabetic rest⟩ false
      (List.dropWhile isAlphabetic rest)
  | plain (unopened : opening? c = none) (other : (isAlphabetic c && verbPossible) = false) :
    Starts verbPossible ⟨none, [c]⟩ verbPossible rest

namespace Starts

variable {verbPossible still : Bool} {piece : Piece} {rest covered : List Char} {paint : Paint}

theorem covers (starts : Starts verbPossible ⟨some paint, covered⟩ still rest) :
    Covers paint covered rest := by
  cases starts with
  | @opened c paint close _ rest opens =>
    exact splitThrough_covers (delimiters?_of_opening? opens) rest
  | verb letter =>
    rcases Text.split_iff.mp ⟨rfl, rfl⟩ with ⟨-, letters, ends⟩
    exact .verb letter letters ends

theorem of_verb (starts : Starts verbPossible ⟨some .boldGreen, covered⟩ still rest) :
    verbPossible = true ∧ still = false := by
  cases starts with
  | opened opens =>
    have between := delimiters?_of_opening? opens
    cases between
  | verb => exact ⟨rfl, rfl⟩

/-- A verb is possible behind a piece without a colour if one was possible before, and only then. -/
theorem still_iff (starts : Starts verbPossible piece still rest) :
    still = true ↔ verbPossible = true ∧ piece.paint = none := by
  cases starts <;> simp

theorem letterless (starts : Starts true piece still rest) (uncoloured : piece.paint = none) :
    piece.Letterless := by
  cases starts with
  | opened => cases uncoloured
  | verb => cases uncoloured
  | plain unopened other =>
    intro c only
    rw [List.mem_singleton.mp only]
    simpa using other

theorem unopened (starts : Starts verbPossible piece still rest) (uncoloured : piece.paint = none) :
    '"' ∉ piece.characters ∧ '[' ∉ piece.characters ∧ '<' ∉ piece.characters := by
  cases starts with
  | opened => cases uncoloured
  | verb => cases uncoloured
  | plain unopened other =>
    simp only [List.mem_singleton]
    refine ⟨?_, ?_, ?_⟩ <;>
    · rintro rfl
      cases unopened

end Starts

section Pieces

variable {verbPossible : Bool} {characters : List Char} {piece : Piece}
  {before behind : List Piece}

theorem exists_starts (pieces : piecesFrom verbPossible characters = piece :: behind) :
    ∃ still rest, Starts verbPossible piece still rest ∧ behind = piecesFrom still rest := by
  fun_cases piecesFrom verbPossible characters with
  | case1 => simp at pieces
  | case2 c rest paint close opens =>
    rw [piecesFrom_opening opens] at pieces
    obtain ⟨rfl, rfl⟩ := List.cons.inj pieces
    exact ⟨_, _, .opened opens, rfl⟩
  | case3 c rest unopened first =>
    rcases Bool.and_eq_true_iff.mp first with ⟨letter, rfl⟩
    rw [piecesFrom_verb unopened letter] at pieces
    obtain ⟨rfl, rfl⟩ := List.cons.inj pieces
    exact ⟨_, _, .verb letter, rfl⟩
  | case4 c rest unopened other =>
    have other : (isAlphabetic c && verbPossible) = false := Bool.eq_false_iff.mpr other
    rw [piecesFrom_plain unopened other] at pieces
    obtain ⟨rfl, rfl⟩ := List.cons.inj pieces
    exact ⟨_, _, .plain unopened other, rfl⟩

/-- Behind some pieces are those of what is left.  Without a colour so far, a verb is possible. -/
theorem exists_rest (pieces : piecesFrom verbPossible characters = before ++ behind) :
    ∃ still rest, behind = piecesFrom still rest ∧
      (still = true ↔ verbPossible = true ∧ ∀ piece ∈ before, piece.paint = none) := by
  induction before generalizing verbPossible characters with
  | nil => exact ⟨verbPossible, characters, pieces.symm, by simp⟩
  | cons piece others inductionHypothesis =>
    rcases exists_starts pieces with ⟨next, left, starts, later⟩
    rcases inductionHypothesis later.symm with ⟨still, rest, same, possible⟩
    refine ⟨still, rest, same, ?_⟩
    rw [possible, starts.still_iff, List.forall_mem_cons, and_assoc]

theorem exists_starts_of_mem (member : piece ∈ piecesFrom verbPossible characters) :
    ∃ possible still rest, Starts possible piece still rest ∧
      (possible = true → verbPossible = true) := by
  rcases List.append_of_mem member with ⟨before, behind, split⟩
  rcases exists_rest split with ⟨possible, left, same, earlier⟩
  rcases exists_starts same.symm with ⟨still, rest, starts, -⟩
  exact ⟨possible, still, rest, starts, fun holds => (earlier.mp holds).1⟩

/-- Where no verb is possible, there is none. -/
theorem paint_ne_boldGreen (member : piece ∈ piecesFrom false characters) :
    piece.paint ≠ some .boldGreen := by
  intro green
  rcases exists_starts_of_mem member with ⟨possible, still, rest, starts, never⟩
  rcases piece with ⟨paint, covered⟩
  obtain rfl : paint = some .boldGreen := green
  cases never starts.of_verb.1

theorem covers_of_pieces {paint : Paint} {covered : List Char}
    (pieces : piecesFrom verbPossible characters = before ++ ⟨some paint, covered⟩ :: behind) :
    Covers paint covered (behind.flatMap Piece.characters) := by
  rcases exists_rest pieces with ⟨possible, left, same, -⟩
  rcases exists_starts same.symm with ⟨still, rest, starts, rfl⟩
  rw [flatMap_characters_piecesFrom]
  exact starts.covers

theorem verbFirst_of_pieces {covered : List Char} (pieces :
      piecesFrom verbPossible characters = before ++ ⟨some .boldGreen, covered⟩ :: behind) :
    (∀ piece ∈ before, piece.paint = none) ∧ ∀ piece ∈ behind, piece.paint ≠ some .boldGreen := by
  rcases exists_rest pieces with ⟨possible, left, same, earlier⟩
  rcases exists_starts same.symm with ⟨still, rest, starts, rfl⟩
  obtain ⟨rfl, rfl⟩ := starts.of_verb
  exact ⟨(earlier.mp rfl).2, fun piece => paint_ne_boldGreen⟩

theorem letterless_of_pieces (pieces : piecesFrom true characters = before ++ behind)
    (uncoloured : ∀ piece ∈ before, piece.paint = none) (member : piece ∈ before) :
    piece.Letterless := by
  rcases List.append_of_mem member with ⟨front, others, rfl⟩
  rw [List.append_assoc, List.cons_append] at pieces
  rcases exists_rest pieces with ⟨possible, left, same, earlier⟩
  rcases exists_starts same.symm with ⟨still, rest, starts, -⟩
  have silent : ∀ piece ∈ front, piece.paint = none :=
    fun piece among => uncoloured piece (List.mem_append_left _ among)
  obtain rfl : possible = true := earlier.mpr ⟨rfl, silent⟩
  exact starts.letterless (uncoloured piece member)

end Pieces

theorem layout_pieces (line : String) : Layout line.toList (pieces line) where
  whole := flatMap_characters_piecesFrom true line.toList
  coloured _ _ _ _ := covers_of_pieces
  verbFirst _ _ _ := verbFirst_of_pieces
  letterless _ _ whole uncoloured _ := letterless_of_pieces whole uncoloured
  plain piece member uncoloured := by
    rcases exists_starts_of_mem member with ⟨possible, still, rest, starts, -⟩
    exact starts.unopened uncoloured

/-! ## Deleting the colours -/

/-- The character with which every sequence begins. -/
def escape : Char :=
  '\x1b'

/-- The sequences that are used in a line: those of its colours, and the one that ends them. -/
def sequences : List (List Char) :=
  ["\x1b[1;32m".toList, "\x1b[33m".toList, "\x1b[36m".toList, "\x1b[35m".toList,
    "\x1b[0m".toList]

/-- What is left when the sequences are deleted, from left to right. -/
def withoutSequences : List Char → List Char
  | [] => []
  | c :: rest =>
    match sequences.find? (·.isPrefixOf (c :: rest)) with
    | some sequence => withoutSequences (rest.drop (sequence.length - 1))
    | none => c :: withoutSequences rest
termination_by characters => characters.length
decreasing_by
  · exact Nat.lt_succ_of_le (List.drop_sublist _ _).length_le
  · exact Nat.lt_succ_self _

section Deletion

variable {characters sequence : List Char}

@[simp]
theorem withoutSequences_nil : withoutSequences [] = [] := by
  rw [withoutSequences]

theorem find?_sequences (member : sequence ∈ sequences) (rest : List Char) :
    sequences.find? (·.isPrefixOf (sequence ++ rest)) = some sequence := by
  simp only [sequences, List.mem_cons, List.not_mem_nil, or_false] at member
  rcases member with rfl | rfl | rfl | rfl | rfl <;> rfl

theorem exists_eq_escape_cons (member : sequence ∈ sequences) :
    ∃ inner, sequence = escape :: inner := by
  have begins : (sequences.all (·.head? = some escape)) = true := by decide
  exact List.head?_eq_some_iff.mp (of_decide_eq_true (List.all_eq_true.mp begins sequence member))

/-- A sequence is deleted as a whole. -/
theorem withoutSequences_sequence (member : sequence ∈ sequences) (rest : List Char) :
    withoutSequences (sequence ++ rest) = withoutSequences rest := by
  have found := find?_sequences member rest
  cases sequence with
  | nil => exact absurd member (by decide)
  | cons c others =>
    rw [List.cons_append] at found
    rw [List.cons_append, withoutSequences, found]
    simp

/-- Where no sequence can begin, nothing is deleted. -/
theorem withoutSequences_append (free : escape ∉ characters) (rest : List Char) :
    withoutSequences (characters ++ rest) = characters ++ withoutSequences rest := by
  induction characters with
  | nil => rfl
  | cons c others inductionHypothesis =>
    rw [List.mem_cons, not_or] at free
    have none : sequences.find? (·.isPrefixOf (c :: (others ++ rest))) = none := by
      rw [List.find?_eq_none]
      intro sequence member begins
      rcases List.isPrefixOf_iff_prefix.mp begins with ⟨behind, same⟩
      rcases exists_eq_escape_cons member with ⟨inner, rfl⟩
      exact free.1 (List.cons.inj same).1
    rw [List.cons_append, withoutSequences, none, List.cons_append, inductionHypothesis free.2]

theorem toList_mem_sequences {paint : Paint} {begin : String}
    (begins : paint.begins? = some begin) : begin.toList ∈ sequences := by
  cases paint with
  | boldGreen | yellow | cyan | magenta =>
    obtain rfl := Option.some.inj begins
    decide
  | _ => cases begins

/-- A piece that is shown is left without its colour. -/
theorem withoutSequences_shown {piece : Piece} {text : String} (shown : piece.ShownAs text)
    (free : escape ∉ piece.characters) (rest : List Char) :
    withoutSequences (text.toList ++ rest) = piece.characters ++ withoutSequences rest := by
  cases shown with
  | plain => simpa using withoutSequences_append free rest
  | coloured begins =>
    have reset : "\x1b[0m".toList ∈ sequences := by decide
    rw [String.toList_append, String.toList_append, String.toList_ofList, List.append_assoc,
      List.append_assoc, withoutSequences_sequence (toList_mem_sequences begins),
      withoutSequences_append free, withoutSequences_sequence reset]

theorem withoutSequences_join {pieces : List Piece} {shown : List String}
    (displayed : List.Forall₂ Piece.ShownAs pieces shown)
    (free : ∀ piece ∈ pieces, escape ∉ piece.characters) :
    withoutSequences (String.join shown).toList = pieces.flatMap Piece.characters := by
  rw [String.toList_join]
  induction displayed with
  | nil => exact withoutSequences_nil
  | cons first others inductionHypothesis =>
    rcases List.forall_mem_cons.mp free with ⟨unescaped, rest⟩
    rw [List.flatMap_cons, withoutSequences_shown first unescaped, inductionHypothesis rest,
      List.flatMap_cons]

end Deletion

/--
A line is left as it is if all of it is blank.  Any other line is cut into pieces without loss, each
of them shown as it is or between the sequence of one colour and the one that ends all colours, and
the colours cover what they are meant for.  In a line without escapes, deleting the sequences gives
the line back.
-/
theorem highlighting_only_adds_colours (line : String) :
    (highlight? line = none ↔ Blanks line.toList) ∧
      (Blanks line.toList → highlight line = line) ∧
      (¬Blanks line.toList → ∃ pieces shown, Layout line.toList pieces ∧
        List.Forall₂ Piece.ShownAs pieces shown ∧
        highlight? line = some (String.join shown)) ∧
      (escape ∉ line.toList → withoutSequences (highlight line).toList = line.toList) := by
  have layout := layout_pieces line
  have untouched (invisible : Blanks line.toList) : highlight? line = none := by
    rw [highlight?, Text.isBlankText, if_pos (List.all_eq_true.mpr invisible)]
  refine ⟨⟨fun none => ?_, untouched⟩, fun invisible => ?_, fun visible => ?_, fun free => ?_⟩
  · by_contra visible
    rcases exists_shown visible with ⟨shown, -, highlighted⟩
    cases none.symm.trans highlighted
  · rw [highlight, untouched invisible, Option.getD_none]
  · rcases exists_shown visible with ⟨shown, displayed, highlighted⟩
    exact ⟨pieces line, shown, layout, displayed, highlighted⟩
  · by_cases blank : Blanks line.toList
    · rw [highlight, untouched blank, Option.getD_none]
      simpa using withoutSequences_append free []
    · rcases exists_shown blank with ⟨shown, displayed, highlighted⟩
      have unescaped : ∀ piece ∈ pieces line, escape ∉ piece.characters := by
        intro piece member among
        rw [← layout.whole] at free
        exact free (List.mem_flatMap.mpr ⟨piece, member, among⟩)
      rw [highlight, highlighted, Option.getD_some, withoutSequences_join displayed unescaped,
        layout.whole]

/-- A letter before a string that is not closed, and a line of blanks. -/
theorem highlighting_only_adds_colours_to_open_string :
    let line := "1 ş]x<\"[ö"
    ¬Blanks line.toList ∧ escape ∉ line.toList ∧
      (∃ pieces shown, Layout line.toList pieces ∧ List.Forall₂ Piece.ShownAs pieces shown ∧
        highlight? line = some (String.join shown)) ∧
      withoutSequences (highlight line).toList = line.toList ∧
      Blanks " \t".toList ∧ highlight " \t" = " \t" := by
  intro line
  rcases highlighting_only_adds_colours line with ⟨-, -, laidOut, deleted⟩
  rcases highlighting_only_adds_colours " \t" with ⟨-, kept, -, -⟩
  have visible : ¬Blanks line.toList := fun blank => absurd (blank '1' (by decide)) (by decide)
  have free : escape ∉ line.toList := by decide
  have blank : Blanks " \t".toList :=
    Text.blanks_cons.mpr ⟨by decide, Text.blanks_cons.mpr ⟨by decide, Text.blanks_nil⟩⟩
  exact ⟨visible, free, laidOut visible, deleted free, blank, kept blank⟩

end Concord.Terminal
