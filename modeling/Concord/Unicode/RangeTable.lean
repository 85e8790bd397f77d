/-!
# Sets of code points

A property of characters is kept as a table of closed ranges.  A character has the property exactly
when one of the ranges contains its code point.
-/

namespace Concord.Unicode

/-- Closed ranges of code points, each given by its first and its last member. -/
abbrev RangeTable := List (Nat × Nat)

namespace RangeTable

/-- Whether some range of the table contains the code point. -/
def covers (table : RangeTable) (point : Nat) : Bool :=
  table.any fun range => range.1 ≤ point && point ≤ range.2

theorem covers_iff {table : RangeTable} {point : Nat} :
    table.covers point = true ↔ ∃ range ∈ table, range.1 ≤ point ∧ point ≤ range.2 := by
  simp [covers]

end RangeTable

end Concord.Unicode
