/-!
# Byte offsets

Places in a text are counted in the bytes of its UTF-8 form.  An offset is a place only if it falls
between two characters.
-/

namespace Concord.Text

def byteLength : List Char → Nat
  | [] => 0
  | c :: rest => c.utf8Size + byteLength rest

/-- The characters before and after a byte offset, if it falls between two of them. -/
def splitAtByte? : List Char → Nat → Option (List Char × List Char)
  | characters, 0 => some ([], characters)
  | [], _ + 1 => none
  | c :: rest, offset + 1 =>
    if c.utf8Size ≤ offset + 1 then
      (splitAtByte? rest (offset + 1 - c.utf8Size)).map fun (before, after) => (c :: before, after)
    else
      none

/-- The characters between two byte offsets, if both are places of the text, in this order. -/
def slice? (text : String) (start stop : Nat) : Option String :=
  if start ≤ stop then
    match splitAtByte? text.toList stop with
    | some (before, _) => (splitAtByte? before start).map fun (_, covered) => String.ofList covered
    | none => none
  else
    none

/-- The line, cut at line feeds, of the place between `before` and `after`. -/
def lineAround (before after : List Char) : List Char :=
  (before.reverse.takeWhile (· ≠ '\n')).reverse ++ after.takeWhile (· ≠ '\n')

end Concord.Text
