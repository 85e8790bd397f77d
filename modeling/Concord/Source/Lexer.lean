import Concord.Source.Cursor
import Concord.Source.Token
import Concord.Text.Blank
import Concord.Unicode.Alphabetic

/-!
# Reading tokens

A cursor reads one token at a time and never fails.  Two ways of reading alternate: tokens, with the
blanks before them skipped, and the raw text of an annotation, which starts right where the cursor
stands.  Every token but the end of input leaves fewer characters ahead, so a source has finitely
many tokens.
-/

namespace Concord.Source

open Text (isBlank)
open Unicode (isAlphabetic)

namespace Cursor

/-- The stretch from one cursor to a later one. -/
def spanTo (start stop : Cursor) : Span :=
  ⟨start.position, stop.position.offset⟩

/-- The rest of a string, from the cursor behind its first quote. -/
def scanString (cursor : Cursor) : TokenKind × Cursor :=
  let text := cursor.takeWhile (· ≠ '"')
  match text.2.rest with
  | [] => (.fault .unterminatedString, text.2)
  | closing :: rest => (.quoted (String.ofList text.1), text.2.step closing rest)

/-- The rest of an identifier, from the cursor behind its first character. -/
def scanIdentifier (cursor : Cursor) (first : Char) : TokenKind × Cursor :=
  let others := cursor.takeWhile isAlphabetic
  (.identifier (String.ofList (first :: others.1)), others.2)

/-- The kind of the token that begins with `c`, and the cursor behind it; `next` stands behind `c`. -/
def scanAfter (c : Char) (next : Cursor) : TokenKind × Cursor :=
  if c = '[' then (.openBracket, next)
  else if c = ']' then (.closeBracket, next)
  else if c = '<' then (.openAngle, next)
  else if c = '>' then (.closeAngle, next)
  else if c = '"' then next.scanString
  else if isAlphabetic c then next.scanIdentifier c
  else (.fault (.unexpectedCharacter c), next)

/-- The kind of the token right at the cursor, and the cursor behind it. -/
def scan (start : Cursor) : TokenKind × Cursor :=
  match start.rest with
  | [] => (.endOfInput, start)
  | c :: rest => scanAfter c (start.step c rest)

/-- The next token, and the cursor behind it. -/
def nextToken (cursor : Cursor) : Token × Cursor :=
  let start := cursor.dropWhile isBlank
  let scanned := start.scan
  (⟨scanned.1, start.spanTo scanned.2⟩, scanned.2)

def peek (cursor : Cursor) : Token :=
  cursor.nextToken.1

/-- The text of an annotation, where it stands, and the cursor behind it. -/
structure RawText where
  text : String
  span : Span
  next : Cursor

/--
The raw text of an annotation.  It runs to the character `close`, to a quote or to the end of its
line, so that an annotation which is not closed never takes in the string behind it.
-/
def annotationText (cursor : Cursor) (close : Char) : RawText :=
  let taken := cursor.takeWhile fun c => c ≠ close ∧ c ≠ '"' ∧ c ≠ '\n'
  ⟨String.ofList taken.1, cursor.spanTo taken.2, taken.2⟩

theorem length_scanString_le (cursor : Cursor) :
    cursor.scanString.2.rest.length ≤ cursor.rest.length := by
  have shorter := cursor.length_takeWhile_le (· ≠ '"')
  simp only [scanString]
  split
  · exact shorter
  · rename_i closing rest equation
    rw [equation] at shorter
    exact Nat.le_trans (Nat.le_succ _) shorter

theorem length_scanAfter_le (c : Char) (next : Cursor) :
    (scanAfter c next).2.rest.length ≤ next.rest.length := by
  unfold scanAfter
  repeat' split
  all_goals first
    | exact Nat.le_refl _
    | exact length_scanString_le next
    | exact next.length_takeWhile_le isAlphabetic

theorem length_nextToken_le (cursor : Cursor) :
    cursor.nextToken.2.rest.length ≤ cursor.rest.length := by
  refine Nat.le_trans ?_ (cursor.length_dropWhile_le isBlank)
  simp only [nextToken, scan]
  split
  · exact Nat.le_refl _
  · rename_i c rest equation
    rw [equation]
    exact Nat.le_trans (length_scanAfter_le _ _) (Nat.le_succ _)

/-- Every token but the end of input takes at least one character. -/
theorem length_nextToken_lt (cursor : Cursor) (more : cursor.peek.kind ≠ .endOfInput) :
    cursor.nextToken.2.rest.length < cursor.rest.length := by
  refine Nat.lt_of_lt_of_le ?_ (cursor.length_dropWhile_le isBlank)
  simp only [peek, nextToken, scan] at more ⊢
  split
  · rename_i equation
    simp [equation] at more
  · rename_i c rest equation
    rw [equation]
    exact Nat.lt_of_le_of_lt (length_scanAfter_le _ _) (Nat.lt_succ_self _)

theorem length_annotationText_le (cursor : Cursor) (close : Char) :
    (cursor.annotationText close).next.rest.length ≤ cursor.rest.length :=
  cursor.length_takeWhile_le _

/-- The tokens ahead, of which the end of input is the last. -/
def tokens (cursor : Cursor) : List Token :=
  if _ended : cursor.peek.kind = .endOfInput then
    [cursor.peek]
  else
    cursor.peek :: cursor.nextToken.2.tokens
termination_by cursor.rest.length
decreasing_by exact cursor.length_nextToken_lt ‹_›

end Cursor

/-- The tokens of a text, of which the end of input is the last. -/
def tokenize (text : String) : List Token :=
  (Cursor.ofText text).tokens

end Concord.Source
