/-!
# `Decimal.Binary64` — finite binary64 numbers, exactly

A finite double is a sign, a significand and a power of two. Reading picks the double nearest to a
decimal; writing picks the fewest decimal digits that read back. Both are computed on natural
numbers, so no rounding happens that is not written down here.

## Contents
- `divideToEven` — the quotient nearest to a fraction, a half going to the even neighbour.
- `Binary64`, `Binary64.nearest?` — the double nearest to a decimal, absent when it is too large.
- `Decimal`, `Binary64.shortest` — the shortest decimal in the interval that rounds to a double.
-/

namespace QueryGraph

/-! ## Rounded division -/

/-- The natural number nearest to `num / den`; a half goes to the even neighbour. -/
def divideToEven (num den : Nat) : Nat :=
  let quotient := num / den
  let twice := 2 * (num % den)
  if twice < den ∨ (twice = den ∧ quotient % 2 = 0) then quotient else quotient + 1

/-- A multiple of the divisor is divided without rounding. -/
theorem divideToEven_mul (q : Nat) {den : Nat} (h : 0 < den) : divideToEven (q * den) den = q := by
  simp [divideToEven, Nat.mul_div_cancel _ h, h]

/-- The rounded quotient is the floor or the one above it. -/
theorem divideToEven_eq (num den : Nat) :
    divideToEven num den = num / den ∨ divideToEven num den = num / den + 1 := by
  simp only [divideToEven]
  split <;> simp

/-! ## Decimals -/

/-- A decimal without a sign: `significand * 10 ^ exponent`. -/
structure Decimal where
  /-- The digits, read as one number. -/
  significand : Nat
  /-- The power of ten that the last digit stands for. -/
  exponent : Int
  deriving DecidableEq, Repr, Inhabited

namespace Decimal

/-- How many decimal digits a number has; zero has none. -/
def digitCount (n : Nat) : Nat := if n = 0 then 0 else (Nat.toDigits 10 n).length

/-- Numerator and denominator of `10 ^ e`. -/
def tenPower (e : Int) : Nat × Nat := (Nat.pow 10 e.toNat, Nat.pow 10 (-e).toNat)

/-- Moves the zeros at the end of the significand into the exponent. -/
def trim (d : Decimal) : Decimal :=
  let digits := (Nat.toDigits 10 d.significand).reverse
  let zeros := if d.significand = 0 then 0 else (digits.takeWhile (· = '0')).length
  ⟨d.significand / Nat.pow 10 zeros, d.exponent + zeros⟩

end Decimal

/-! ## Doubles -/

/-- A finite double: `significand * 2 ^ exponent`, negated when `negative`. -/
structure Binary64 where
  /-- Whether the sign bit is set; zero has a sign too. -/
  negative : Bool
  /-- The significand, below `2 ^ 53`. -/
  significand : Nat
  /-- The power of two that the last bit of the significand stands for. -/
  exponent : Int
  deriving DecidableEq, Repr, Inhabited

namespace Binary64

/-- The power of two of the last bit of the smallest doubles. -/
def leastExponent : Int := -1074

/-- The power of two of the last bit of the largest doubles. -/
def greatestExponent : Int := 971

/-- Zero of either sign. -/
def zero (negative : Bool) : Binary64 := ⟨negative, 0, leastExponent⟩

/-- Numerator and denominator of `2 ^ e`. -/
def twoPower (e : Int) : Nat × Nat := (Nat.pow 2 e.toNat, Nat.pow 2 (-e).toNat)

/-- The exponent under which a positive fraction has 53 significant bits, or the least one when the
fraction is too small for that. -/
def exponentFor (num den : Nat) : Int :=
  let low : Int := (Nat.log2 num : Int) - Nat.log2 den - 53
  let (up, down) := twoPower low
  let fitted := if num * down / (den * up) < Nat.pow 2 53 then low else low + 1
  max fitted leastExponent

/-- The double nearest to the fraction `num / den`, a half going to the even significand. A fraction
that rounds beyond the largest double has none. -/
def nearestFraction? (negative : Bool) (num den : Nat) : Option Binary64 :=
  if num = 0 then some (zero negative) else
  let exponent := exponentFor num den
  let (up, down) := twoPower exponent
  let rounded := divideToEven (num * down) (den * up)
  let (significand, exponent) :=
    if rounded = Nat.pow 2 53 then (Nat.pow 2 52, exponent + 1) else (rounded, exponent)
  if greatestExponent < exponent then none else some ⟨negative, significand, exponent⟩

/-- The double nearest to a decimal. A decimal whose first digit stands far outside the range of
doubles is settled from its size alone, so that no huge power of ten is computed. -/
def nearest? (negative : Bool) (d : Decimal) : Option Binary64 :=
  let size : Int := Decimal.digitCount d.significand + d.exponent
  if d.significand = 0 ∨ size < -330 then some (zero negative)
  else if 310 < size then none
  else
    let (up, down) := Decimal.tenPower d.exponent
    nearestFraction? negative (d.significand * up) down

/-! ## Shortest digits -/

/-- The interval of reals that round to `significand * 2 ^ exponent`, in quarters of its last bit:
half a bit to each side, and a quarter below where the doubles get denser. -/
def interval (x : Binary64) : Nat × Nat :=
  let denser := x.significand = Nat.pow 2 52 ∧ leastExponent < x.exponent
  (4 * x.significand - (if denser then 1 else 2), 4 * x.significand + 2)

/-- The power of ten of the first digit of the positive fraction `num / den`. -/
def leadingPower (num den : Nat) : Int :=
  if den ≤ num then (Decimal.digitCount (num / den) : Int) - 1
  else -(Decimal.digitCount ((den + num - 1) / num - 1) : Int)

/-- The decimal with at most `count` digits that lies in the interval of `x` and is nearest to it:
one of the two neighbours of `x` on the grid of that many digits. A tie goes to the even digit. -/
def withDigits? (x : Binary64) (count : Nat) : Option Decimal :=
  let (up, down) := twoPower (x.exponent - 2)
  let value := 4 * x.significand
  let (low, high) := x.interval
  let grid := leadingPower (value * up) down + 1 - count
  let (tens, tenths) := Decimal.tenPower grid
  -- both sides in units of `1 / (down * tenths)`
  let place (quarters : Nat) : Nat := quarters * up * tenths
  let step := tens * down
  let inside (digits : Nat) : Bool :=
    if x.significand % 2 = 0 then place low ≤ digits * step ∧ digits * step ≤ place high
    else place low < digits * step ∧ digits * step < place high
  let below := place value / step
  let nearer := divideToEven (place value) step
  let further := if nearer = below then below + 1 else below
  if inside nearer then some ⟨nearer, grid⟩
  else if inside further then some ⟨further, grid⟩
  else none

/-- The shortest decimal that reads back as a nonzero double. Seventeen digits always do. -/
def shortest (x : Binary64) : Decimal :=
  ((List.range' 1 17).findSome? x.withDigits?).elim ⟨0, 0⟩ Decimal.trim

end Binary64

end QueryGraph
