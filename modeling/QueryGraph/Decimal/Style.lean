import QueryGraph.Decimal.Binary64

/-!
# `Decimal.Style` — writing a decimal

A decimal is written plainly or with an exponent, as the power of ten of its first digit decides.
Where the plain range ends is the choice of the format that writes the number, held in one record.
-/

namespace QueryGraph

/-- Where plain notation begins and ends, by the power of ten of the first digit. -/
structure DecimalStyle where
  /-- The least power that is written plainly. -/
  plainFrom : Int
  /-- The least power above it that is not. -/
  plainBelow : Int
  deriving Repr

namespace Decimal

/-- The digits with a point in them, the first digit standing for `10 ^ power`. There is always a
digit on both sides of the point. -/
def plain (digits : List Char) (power : Int) : List Char :=
  if power < 0 then
    '0' :: '.' :: (List.replicate ((-power).toNat - 1) '0' ++ digits)
  else
    let whole := power.toNat + 1
    let padded := digits ++ List.replicate (whole - digits.length) '0'
    let fraction := padded.drop whole
    padded.take whole ++ '.' :: (if fraction.isEmpty then ['0'] else fraction)

/-- One digit, a point and the others if there are any, then the power of ten with its sign. -/
def scientific (digits : List Char) (power : Int) : List Char :=
  let fraction := digits.drop 1
  digits.take 1 ++ (if fraction.isEmpty then [] else '.' :: fraction)
    ++ 'e' :: (if power < 0 then '-' else '+') :: Nat.toDigits 10 power.natAbs

/-- A decimal in the given style. -/
def write (style : DecimalStyle) (d : Decimal) : List Char :=
  let digits := Nat.toDigits 10 d.significand
  let power : Int := d.exponent + digits.length - 1
  if style.plainFrom ≤ power ∧ power < style.plainBelow then plain digits power
  else scientific digits power

end Decimal

/-- A double in the given style: its shortest digits under its sign. -/
def Binary64.write (style : DecimalStyle) (x : Binary64) : List Char :=
  let magnitude := if x.significand = 0 then ['0', '.', '0'] else x.shortest.write style
  if x.negative then '-' :: magnitude else magnitude

end QueryGraph
