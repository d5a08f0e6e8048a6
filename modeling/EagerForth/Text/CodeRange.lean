/-!
# Ranges of characters

A property of characters that a standard gives by enumeration is kept as a list of ranges
of scalar values.
-/

namespace EagerForth

/-- All scalar values from {lit}`first` to {lit}`last`, both included. -/
structure CodeRange where
  /-- The least scalar value of the range. -/
  first : Nat
  /-- The greatest scalar value of the range. -/
  last : Nat

namespace CodeRange

/-- A character lies in a range when its scalar value does. -/
def contains (r : CodeRange) (c : Char) : Bool :=
  r.first ≤ c.toNat && c.toNat ≤ r.last

/-- A character lies in a list of ranges when it lies in one of them. -/
def anyContains (rs : List CodeRange) (c : Char) : Bool :=
  rs.any (·.contains c)

end CodeRange

end EagerForth
