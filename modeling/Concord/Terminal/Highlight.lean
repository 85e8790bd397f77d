import Concord.Terminal.Paint
import Concord.Text.Blank
import Concord.Unicode.Alphabetic

/-!
# Colouring a line

A line is coloured as it is typed, whether it can be parsed or not.  It falls into pieces: strings
and annotations, each running to its closing character or to the end of the line; the first word, if
no other piece comes before it; and single characters that keep their colour.
-/

namespace Concord.Terminal

open Unicode (isAlphabetic)

/-- A stretch of a line, and its colour if it has one. -/
structure Piece where
  paint : Option Paint
  characters : List Char
  deriving DecidableEq, Repr

def Piece.render (piece : Piece) : String :=
  match piece.paint with
  | none => String.ofList piece.characters
  | some paint => paint.apply (String.ofList piece.characters)

/-- The characters up to and including the first `close`, or all of them, and the ones behind. -/
def splitThrough (close : Char) (characters : List Char) : List Char × List Char :=
  let front := characters.takeWhile (· ≠ close)
  match characters.dropWhile (· ≠ close) with
  | [] => (front, [])
  | found :: behind => (front ++ [found], behind)

/-- The colour of what a character opens, and the character that closes it. -/
def opening? (c : Char) : Option (Paint × Char) :=
  if c = '"' then some (.yellow, '"')
  else if c = '[' then some (.cyan, ']')
  else if c = '<' then some (.magenta, '>')
  else none

theorem length_splitThrough_le (close : Char) (characters : List Char) :
    (splitThrough close characters).2.length ≤ characters.length := by
  have shorter := (List.dropWhile_sublist (l := characters) (· ≠ close)).length_le
  simp only [splitThrough]
  split
  · simp
  · rename_i found behind equation
    rw [equation] at shorter
    exact Nat.le_trans (Nat.le_succ _) shorter

/-- The pieces of a line.  Once a piece has a colour, no word is a verb any more. -/
def piecesFrom (verbPossible : Bool) : List Char → List Piece
  | [] => []
  | c :: rest =>
    match opening? c with
    | some (paint, close) =>
      ⟨some paint, c :: (splitThrough close rest).1⟩ ::
        piecesFrom false (splitThrough close rest).2
    | none =>
      if isAlphabetic c && verbPossible then
        ⟨some .boldGreen, c :: rest.takeWhile isAlphabetic⟩ ::
          piecesFrom false (rest.dropWhile isAlphabetic)
      else
        ⟨none, [c]⟩ :: piecesFrom verbPossible rest
termination_by characters => characters.length
decreasing_by
  · exact Nat.lt_succ_of_le (length_splitThrough_le _ _)
  · exact Nat.lt_succ_of_le (List.dropWhile_sublist _).length_le
  · exact Nat.lt_succ_self _

def pieces (line : String) : List Piece :=
  piecesFrom true line.toList

/-- A line in colour, or nothing if the line is blank and stays as it is. -/
def highlight? (line : String) : Option String :=
  if Text.isBlankText line then
    none
  else
    some (String.join ((pieces line).map Piece.render))

def highlight (line : String) : String :=
  (highlight? line).getD line

end Concord.Terminal
