/-!
# `Regex.Nesting` — how deep an expression is nested

What stands in a row counts as one level more than its deepest member, but a single member counts as
nothing more than itself. Rows are the items of an expression, its alternatives, and the parts of a
set.

## Contents
- `Row`, `Row.push`, `Row.deepen` — rows and their last members.
- `Row.depth` — how deep a row is.
-/

namespace QueryGraph.Regex

/-- What is known of members in a row. -/
structure Row where
  /-- How many there are. -/
  count : Nat
  /-- The depth of the deepest but the last. -/
  before : Nat
  /-- The depth of the last. -/
  last : Nat
  deriving DecidableEq, Repr, Inhabited

namespace Row

/-- No members. -/
def empty : Row := ⟨0, 0, 0⟩

/-- One member more, of the given depth. -/
def push (r : Row) (depth : Nat) : Row := ⟨r.count + 1, max r.before r.last, depth⟩

/-- The last member one level deeper. -/
def deepen (r : Row) : Row := { r with last := r.last + 1 }

/-- How deep a row is. -/
def depth (r : Row) : Nat := if r.count ≤ 1 then r.last else 1 + max r.before r.last

end Row

/-- The deepest nesting of an expression. -/
def maxNesting : Nat := 250

end QueryGraph.Regex
