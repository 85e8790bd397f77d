import Concord.Source.Position

/-!
# Cursors

A cursor stands at a place of a source text and knows the characters still ahead.  It only moves
forward.
-/

namespace Concord.Source

/-- A place in a source text, with the characters after it. -/
structure Cursor where
  rest : List Char
  position : Position
  deriving DecidableEq, Repr

namespace Cursor

/-- The cursor before the first character of a text. -/
def ofText (text : String) : Cursor :=
  ⟨text.toList, .start⟩

/-- The characters ahead up to the first that fails the test, and the cursor before that one. -/
def takeWhile (cursor : Cursor) (test : Char → Bool) : List Char × Cursor :=
  let taken := cursor.rest.takeWhile test
  (taken, ⟨cursor.rest.dropWhile test, cursor.position.after taken⟩)

/-- The cursor before the first character ahead that fails the test. -/
def dropWhile (cursor : Cursor) (test : Char → Bool) : Cursor :=
  (cursor.takeWhile test).2

/-- The cursor after the character `c`, when `rest` is ahead of that character. -/
def step (cursor : Cursor) (c : Char) (rest : List Char) : Cursor :=
  ⟨rest, cursor.position.next c⟩

@[simp] theorem takeWhile_append_rest (cursor : Cursor) (test : Char → Bool) :
    (cursor.takeWhile test).1 ++ (cursor.takeWhile test).2.rest = cursor.rest :=
  List.takeWhile_append_dropWhile

@[simp] theorem position_takeWhile (cursor : Cursor) (test : Char → Bool) :
    (cursor.takeWhile test).2.position = cursor.position.after (cursor.takeWhile test).1 := rfl

theorem length_takeWhile_le (cursor : Cursor) (test : Char → Bool) :
    (cursor.takeWhile test).2.rest.length ≤ cursor.rest.length :=
  (List.dropWhile_sublist test).length_le

theorem length_dropWhile_le (cursor : Cursor) (test : Char → Bool) :
    (cursor.dropWhile test).rest.length ≤ cursor.rest.length :=
  cursor.length_takeWhile_le test

end Cursor

end Concord.Source
