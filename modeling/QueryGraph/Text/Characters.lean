/-!
# `Text.Characters` — classes of characters

A class of characters is given by ranges of code points. Digits of base sixteen and blanks are what the
readers of numbers, escapes and expressions ask for most.

## Contents
- `Range`, `inRanges` — sets of characters as ranges of code points.
- `hexadecimal`, `hexDigit`, `hexValue?` — numbers in base sixteen, and the values of their digits.
- `isBlank`, `trim` — blanks, and texts without them at the ends.
-/

namespace QueryGraph.Text

/-! ## Ranges -/

/-- The code points from the first number to the second, both included. -/
abbrev Range := Nat × Nat

/-- Whether a character lies in one of the ranges. -/
def inRanges (ranges : List Range) (c : Char) : Bool :=
  ranges.any fun r => decide (r.1 ≤ c.toNat) && decide (c.toNat ≤ r.2)

/-! ## Base sixteen -/

/-- The digits of a number in base sixteen. -/
def hexadecimal (n : Nat) : List Char := Nat.toDigits 16 n

/-- A digit of base sixteen, in lower case. -/
def hexDigit (n : Nat) : Char := (hexadecimal n).headD '0'

/-- The value of a digit of base sixteen, in either case. -/
def hexValue? (c : Char) : Option Nat :=
  if '0' ≤ c ∧ c ≤ '9' then some (c.toNat - '0'.toNat)
  else if 'a' ≤ c ∧ c ≤ 'f' then some (c.toNat - 'a'.toNat + 10)
  else if 'A' ≤ c ∧ c ≤ 'F' then some (c.toNat - 'A'.toNat + 10)
  else none

/-- A digit has the value it was written for. -/
theorem hexValue?_hexDigit : ∀ n < 16, hexValue? (hexDigit n) = some n := by decide +kernel

/-! ## Blanks -/

/-- The blank characters: spaces, tabs and the ends of lines. -/
def blank : List Range :=
  [(0x9, 0xd), (0x20, 0x20), (0x85, 0x85), (0xa0, 0xa0), (0x1680, 0x1680), (0x2000, 0x200a),
  (0x2028, 0x2029), (0x202f, 0x202f), (0x205f, 0x205f), (0x3000, 0x3000)]

/-- Whether a character is blank. -/
def isBlank (c : Char) : Bool := inRanges blank c

/-- A text without the blanks at its ends. -/
def trim (cs : List Char) : List Char :=
  ((cs.dropWhile isBlank).reverse.dropWhile isBlank).reverse

/-! The blanks inside stay. -/

example : trim "\u3000 a b\n".toList = "a b".toList := by decide +kernel

end QueryGraph.Text
