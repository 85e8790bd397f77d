import Concord.Text.Blank
import Concord.Text.Slice

/-!
# Completing a word

While a line is typed, the word before the cursor can be completed to a keyword that begins with it.
Inside a string nothing is completed.
-/

namespace Concord.Terminal

open Text (byteLength isBlank splitAtByte?)

/-- A way to complete a word: what is shown, and what is put in its place. -/
structure Candidate where
  display : String
  replacement : String
  deriving DecidableEq, Repr

/-- Where the word starts, and the ways to complete it. -/
structure Completion where
  /-- The number of bytes before the word. -/
  start : Nat
  candidates : List Candidate
  deriving DecidableEq, Repr

/-- The characters up to the last blank, and the word behind it. -/
def splitWord (characters : List Char) : List Char × List Char :=
  let backwards := characters.reverse
  ((backwards.dropWhile (!isBlank ·)).reverse, (backwards.takeWhile (!isBlank ·)).reverse)

/-- Whether a word behind the given characters lies in a string. -/
def insideString (before word : List Char) : Bool :=
  before.count '"' % 2 = 1 || word.head? = some '"'

/-- The ways to complete a word. -/
def candidatesFor (keywords : List String) (word : List Char) : List Candidate :=
  (keywords.filter fun keyword => word.isPrefixOf keyword.toList).map fun keyword =>
    ⟨keyword, keyword⟩

/-- The ways to complete the word that ends at a byte offset of a line, if that is a place of it. -/
def complete? (keywords : List String) (line : String) (offset : Nat) : Option Completion :=
  (splitAtByte? line.toList offset).map fun (typed, _) =>
    let split := splitWord typed
    ⟨byteLength split.1,
      if insideString split.1 split.2 then [] else candidatesFor keywords split.2⟩

end Concord.Terminal
