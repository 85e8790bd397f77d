import Concord.Text.Slice

/-!
# Positions

Places in a source text.  An offset counts bytes from zero; lines and columns count from one, and a
column counts characters.
-/

namespace Concord.Source

/-- A place between two characters of a source text. -/
structure Position where
  /-- The number of bytes before the place. -/
  offset : Nat
  /-- One more than the number of line feeds before the place. -/
  line : Nat
  /-- One more than the number of characters before the place on its line. -/
  column : Nat
  deriving DecidableEq, Repr

namespace Position

def start : Position :=
  ⟨0, 1, 1⟩

def next (position : Position) (c : Char) : Position :=
  if c = '\n' then
    ⟨position.offset + c.utf8Size, position.line + 1, 1⟩
  else
    ⟨position.offset + c.utf8Size, position.line, position.column + 1⟩

def after (position : Position) (characters : List Char) : Position :=
  characters.foldl next position

@[simp] theorem after_nil (position : Position) : position.after [] = position := rfl

@[simp] theorem after_cons (position : Position) (c : Char) (characters : List Char) :
    position.after (c :: characters) = (position.next c).after characters := rfl

@[simp] theorem after_append (position : Position) (first second : List Char) :
    position.after (first ++ second) = (position.after first).after second := by
  simp [after]

end Position

/-- A stretch of a source text: where it starts, and the offset at which it stops. -/
structure Span where
  start : Position
  /-- The offset after the last character. -/
  stop : Nat
  deriving DecidableEq, Repr

/-- The text of a span, if it is a stretch of the source. -/
def Span.text? (span : Span) (source : String) : Option String :=
  Text.slice? source span.start.offset span.stop

end Concord.Source
