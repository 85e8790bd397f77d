import Concord.Error
import Concord.Text.Utf8

/-!
# Reading lines

A session reads its input line by line.  Lines come from a stream of bytes, in which a line ends at
a line feed or at the end of the stream.  Bytes that belong to no character are replaced, so that a
bad line never ends a session.
-/

namespace Concord

/-- What comes of reading a line. -/
inductive Reading where
  /-- A line without its terminator, and whether bytes of it had to be replaced. -/
  | line (text : String) (repaired : Bool)
  | interrupted
  | endOfInput
  | failed (error : Error)
  deriving DecidableEq, Repr

/-- The bytes of a line, and whether a line feed came behind them. -/
structure RawLine where
  bytes : List UInt8
  terminated : Bool
  deriving DecidableEq, Repr

namespace RawLine

def lineFeed : UInt8 := 10

def carriageReturn : UInt8 := 13

/-- The first line of a stream and the bytes behind it, unless the stream is at its end. -/
def next? : List UInt8 → Option (RawLine × List UInt8)
  | [] => none
  | first :: others =>
    let bytes := first :: others
    some (⟨bytes.takeWhile (· ≠ lineFeed), (bytes.dropWhile (· ≠ lineFeed)) ≠ []⟩,
      (bytes.dropWhile (· ≠ lineFeed)).drop 1)

def dropReturn (bytes : List UInt8) : List UInt8 :=
  if bytes.getLast? = some carriageReturn then bytes.dropLast else bytes

/-- The line as a plain stream delivers it. -/
def streamed (line : RawLine) : Reading :=
  let bytes := dropReturn line.bytes
  .line (Text.Utf8.decode bytes) (!Text.Utf8.isWellFormed bytes)

theorem length_next?_lt
    {bytes rest : List UInt8} {line : RawLine}
    (found : next? bytes = some (line, rest)) :
    rest.length < bytes.length := by
  cases bytes with
  | nil => simp [next?] at found
  | cons first others =>
    simp only [next?, Option.some.injEq, Prod.mk.injEq] at found
    rw [← found.2]
    have shorter := (List.dropWhile_sublist (l := first :: others) (· ≠ lineFeed)).length_le
    simp only [List.length_drop, List.length_cons] at shorter ⊢
    omega

/-- The lines of a stream. -/
def all (bytes : List UInt8) : List RawLine :=
  match _next : next? bytes with
  | none => []
  | some (line, rest) => line :: all rest
termination_by bytes.length
decreasing_by exact length_next?_lt _next

@[simp]
theorem all_nil : all [] = [] := by
  rw [all]
  rfl

theorem all_of_next? {bytes rest : List UInt8} {line : RawLine}
    (found : next? bytes = some (line, rest)) : all bytes = line :: all rest := by
  rw [all]
  split
  · next none => simp [found] at none
  · next other behind same =>
    rw [found, Option.some.injEq, Prod.mk.injEq] at same
    rw [same.1, same.2]

end RawLine

namespace Reading

def ofStream (bytes : List UInt8) : Reading × List UInt8 :=
  match RawLine.next? bytes with
  | none => (.endOfInput, [])
  | some (raw, rest) => (raw.streamed, rest)

end Reading

end Concord
