/-!
# Ranges of code points

A character class given by a table of closed ranges of code points.
-/

namespace SubnetRouter.Text

/-- The closed range of code points from the first component to the second. -/
abbrev CodeRange := Nat × Nat

namespace CodeRange

/-- The code point of `c` lies in the range. -/
def contains (range : CodeRange) (c : Char) : Bool :=
  range.1 ≤ c.toNat && c.toNat ≤ range.2

/-- Some range of the table holds `c`. -/
def covers (table : Array CodeRange) (c : Char) : Bool :=
  table.any (·.contains c)

end CodeRange

end SubnetRouter.Text
