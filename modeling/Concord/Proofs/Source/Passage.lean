import Concord.Proofs.Source.Lexeme
import Concord.Proofs.Text.Offsets

/-!
# Passing over characters

A cursor that is moved forward passes over characters, and its place is moved by exactly these.  So
where a token or the text of an annotation stands is known from the characters in front of it.
-/

namespace Concord.Source

open Text (Blanks byteLength isBlank)
open Unicode (isAlphabetic)

namespace Position

@[simp]
theorem offset_next (position : Position) (c : Char) :
    (position.next c).offset = position.offset + c.utf8Size := by
  unfold next
  split <;> rfl

@[simp]
theorem offset_after (position : Position) (characters : List Char) :
    (position.after characters).offset = position.offset + byteLength characters := by
  induction characters generalizing position with
  | nil => simp
  | cons c characters inductionHypothesis =>
    simp [inductionHypothesis, Nat.add_assoc]

end Position

namespace Cursor

/-- The cursor `next` stands behind these characters, which are ahead of the other cursor. -/
structure Passes (cursor : Cursor) (characters : List Char) (next : Cursor) : Prop where
  rest : cursor.rest = characters ++ next.rest
  position : next.position = cursor.position.after characters

section Passes

variable {cursor next last : Cursor} {characters others : List Char}

theorem Passes.refl (cursor : Cursor) : cursor.Passes [] cursor :=
  ⟨rfl, rfl⟩

theorem Passes.trans (first : cursor.Passes characters next) (second : next.Passes others last) :
    cursor.Passes (characters ++ others) last := by
  refine ⟨?_, ?_⟩
  · rw [first.rest, second.rest, List.append_assoc]
  · rw [second.position, first.position, Position.after_append]

/-- What has been passed over is known from what is left. -/
theorem Passes.eq_of_rest (passes : cursor.Passes characters next)
    (ahead : cursor.rest = others ++ next.rest) : characters = others :=
  List.append_cancel_right (passes.rest.symm.trans ahead)

/-- A cursor is known from where it has been moved from and from what is left. -/
theorem Passes.unique (passes : cursor.Passes characters next)
    (alsoPasses : cursor.Passes others last) (rest : next.rest = last.rest) : next = last := by
  obtain rfl := passes.eq_of_rest (rest ▸ alsoPasses.rest)
  have position := passes.position.trans alsoPasses.position.symm
  rcases next with ⟨_, _⟩
  rcases last with ⟨_, _⟩
  cases rest
  cases position
  rfl

/-- What is passed over can be passed over in two parts. -/
theorem Passes.split (passes : cursor.Passes (characters ++ others) last) :
    ∃ next, cursor.Passes characters next ∧ next.Passes others last := by
  refine ⟨⟨others ++ last.rest, cursor.position.after characters⟩, ⟨?_, rfl⟩, ⟨rfl, ?_⟩⟩
  · rw [passes.rest, List.append_assoc]
  · rw [passes.position, Position.after_append]

end Passes

theorem passes_takeWhile (cursor : Cursor) (test : Char → Bool) :
    cursor.Passes (cursor.takeWhile test).1 (cursor.takeWhile test).2 :=
  ⟨(cursor.takeWhile_append_rest test).symm, cursor.position_takeWhile test⟩

theorem passes_step {cursor : Cursor} {c : Char} {rest : List Char}
    (ahead : cursor.rest = c :: rest) : cursor.Passes [c] (cursor.step c rest) :=
  ⟨ahead, rfl⟩

theorem passes_scanString (cursor : Cursor) :
    ∃ characters, cursor.Passes characters cursor.scanString.2 := by
  have inside := cursor.passes_takeWhile (· ≠ '"')
  simp only [scanString]
  split
  · exact ⟨_, inside⟩
  · next closing rest ahead => exact ⟨_, inside.trans (passes_step ahead)⟩

theorem passes_scanAfter (c : Char) (next : Cursor) :
    ∃ characters, next.Passes characters (scanAfter c next).2 := by
  unfold scanAfter
  split_ifs
  · exact ⟨[], .refl next⟩
  · exact ⟨[], .refl next⟩
  · exact ⟨[], .refl next⟩
  · exact ⟨[], .refl next⟩
  · exact next.passes_scanString
  · exact ⟨_, next.passes_takeWhile isAlphabetic⟩
  · exact ⟨[], .refl next⟩

theorem passes_scan (start : Cursor) : ∃ characters, start.Passes characters start.scan.2 := by
  cases ahead : start.rest with
  | nil =>
    refine ⟨[], ?_⟩
    simpa [scan, ahead] using Passes.refl start
  | cons c rest =>
    rcases passes_scanAfter c (start.step c rest) with ⟨characters, inner⟩
    refine ⟨[c] ++ characters, (passes_step ahead).trans ?_⟩
    simpa [scan, ahead] using inner

/-- Blanks are skipped before the next token, and then what it covers is passed over. -/
theorem passes_token (cursor : Cursor) :
    ∃ blanks covered, Blanks blanks ∧ Lexeme cursor.peek.kind covered cursor.nextToken.2.rest ∧
      cursor.Passes blanks (cursor.dropWhile isBlank) ∧
      (cursor.dropWhile isBlank).Passes covered cursor.nextToken.2 := by
  have skipped := cursor.passes_takeWhile isBlank
  rcases (cursor.takeWhile_iff isBlank _ _).mp ⟨rfl, rfl⟩ with ⟨-, blank, stops⟩
  rcases scan_sound (cursor.dropWhile isBlank) stops with ⟨covered, lexeme, ahead⟩
  rcases (cursor.dropWhile isBlank).passes_scan with ⟨characters, passes⟩
  obtain rfl := passes.eq_of_rest ahead
  exact ⟨_, characters, blank, lexeme, skipped, passes⟩

/-- The next token stands behind blanks, and the cursor behind it stands behind what it covers. -/
theorem nextToken_spec (cursor : Cursor) :
    ∃ blanks covered, Blanks blanks ∧
      Lexeme cursor.peek.kind covered cursor.nextToken.2.rest ∧
      cursor.Passes (blanks ++ covered) cursor.nextToken.2 ∧
      cursor.peek.span.start = cursor.position.after blanks ∧
      cursor.peek.span.stop = cursor.nextToken.2.position.offset := by
  rcases cursor.passes_token with ⟨blanks, covered, blank, lexeme, skipped, passes⟩
  exact ⟨blanks, covered, blank, lexeme, skipped.trans passes, skipped.position, rfl⟩

/-- The cursor behind the text of an annotation has passed over this text. -/
theorem passes_annotationText {cursor : Cursor} {close : Char} {name : List Char}
    (ahead : cursor.rest = name ++ (cursor.annotationText close).next.rest) :
    cursor.Passes name (cursor.annotationText close).next := by
  have passes : cursor.Passes _ (cursor.annotationText close).next := cursor.passes_takeWhile _
  exact passes.eq_of_rest ahead ▸ passes

end Cursor

end Concord.Source
