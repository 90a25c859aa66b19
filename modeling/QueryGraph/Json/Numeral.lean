import QueryGraph.Json.Fault

/-!
# `Json.Numeral` — number literals

A literal is first taken apart into its digits, then given its value. An integer of 64 bits keeps
its digits; a fraction, an exponent, a larger integer and minus zero stand for the nearest double.

## Contents
- `Numeral`, `scanNumeral` — the parts of a literal.
- `Numeral.value` — the number it stands for.
- `readNumber` — both at once.
-/

namespace QueryGraph.Json

/-! ## Parts -/

/-- The power of ten written behind an `e`. -/
structure TenExponent where
  /-- Whether it has a minus sign. -/
  negative : Bool
  /-- Its digits, at least one. -/
  digits : List Char
  deriving Repr

/-- The parts of a number literal. -/
structure Numeral where
  /-- Whether it has a minus sign. -/
  negative : Bool
  /-- The digits before the point, at least one. -/
  whole : List Char
  /-- The digits behind the point, if there is a point. -/
  fraction : Option (List Char)
  /-- The exponent, if there is one. -/
  exponent : Option TenExponent
  deriving Repr

/-- The digits at the front of a text and what follows them. -/
def digitsOf (cs : List Char) : List Char × List Char :=
  (cs.takeWhile Char.isDigit, cs.dropWhile Char.isDigit)

/-- No character is lost between the digits and the rest. -/
theorem digitsOf_append (cs : List Char) : (digitsOf cs).1 ++ (digitsOf cs).2 = cs :=
  List.takeWhile_append_dropWhile

/-- At least one digit. A text that ends instead has the fault `atEnd`, and a wrong character is
reported `past` bytes into it. -/
def someDigits (atEnd : Cause) (cs : List Char) : Except Fault (Scanned (List Char)) :=
  match digitsOf cs with
  | ([], []) => .error (.after atEnd [])
  | ([], wrong) => .error (.atNext .malformedNumber wrong)
  | found => .ok found

/-- The digits before the point: a zero on its own, or digits that start with another one. -/
def scanWhole (atEnd : Cause) : List Char → Except Fault (Scanned (List Char))
  | '0' :: rest =>
    match rest with
    | c :: _ => if c.isDigit then .error (.atNext .malformedNumber rest) else .ok (['0'], rest)
    | [] => .ok (['0'], [])
  | cs => someDigits atEnd cs

/-- The point and the digits behind it, if there is a point. -/
def scanFraction (atEnd : Cause) : List Char → Except Fault (Scanned (Option (List Char)))
  | '.' :: rest => do
    let (digits, rest) ← someDigits atEnd rest
    return (some digits, rest)
  | cs => .ok (none, cs)

/-- The sign of an exponent; a plus sign may be left out. -/
def scanSign : List Char → Bool × List Char
  | '+' :: rest => (false, rest)
  | '-' :: rest => (true, rest)
  | cs => (false, cs)

/-- The exponent, if there is one. -/
def scanExponent (atEnd : Cause) : List Char → Except Fault (Scanned (Option TenExponent))
  | 'e' :: rest | 'E' :: rest => do
    let (negative, rest) := scanSign rest
    let (digits, rest) ← someDigits atEnd rest
    return (some ⟨negative, digits⟩, rest)
  | cs => .ok (none, cs)

/-- Takes a number literal apart. `atEnd` is the cause reported when the text ends where a digit
must stand. -/
def scanNumeral (atEnd : Cause) (cs : List Char) : Except Fault (Scanned Numeral) := do
  let (negative, cs) := match cs with
    | '-' :: rest => (true, rest)
    | _ => (false, cs)
  let (whole, cs) ← scanWhole atEnd cs
  let (fraction, cs) ← scanFraction atEnd cs
  let (exponent, cs) ← scanExponent atEnd cs
  return (⟨negative, whole, fraction, exponent⟩, cs)

/-! ## Value -/

/-- The number that digits of base ten stand for. -/
def digitsValue (digits : List Char) : Nat :=
  digits.foldl (fun n c => n * 10 + (c.toNat - '0'.toNat)) 0

/-- The largest exponent that is read as a number. -/
def greatestTenExponent : Nat := 2147483647

/-- The value of the digits of an exponent, or the digits that are left when it has become too large
to be one. -/
def exponentValue (value : Nat) : List Char → Except (List Char) Nat
  | [] => .ok value
  | c :: rest =>
    let value := value * 10 + (c.toNat - '0'.toNat)
    if greatestTenExponent < value then .error rest else exponentValue value rest

/-- An integer literal: of 64 bits, with a sign or without, or else the nearest double. -/
def integerNumber (negative : Bool) (magnitude : Nat) : Option Number :=
  if negative then
    if 0 < magnitude ∧ magnitude ≤ Nat.pow 2 63 then some (.integer (-magnitude))
    else (Binary64.nearest? true ⟨magnitude, 0⟩).map .double
  else if magnitude < Nat.pow 2 64 then some (.integer magnitude)
  else (Binary64.nearest? false ⟨magnitude, 0⟩).map .double

/-- The value of a literal. When it is too large the result holds the digits of the exponent that
did not matter any more. -/
def Numeral.value (n : Numeral) : Except (List Char) Number :=
  let fraction := n.fraction.getD []
  let significand := digitsValue (n.whole ++ fraction)
  let double (exponent : Int) : Except (List Char) Number :=
    match Binary64.nearest? n.negative ⟨significand, exponent - fraction.length⟩ with
    | some x => .ok (.double x)
    | none => .error []
  match n.fraction, n.exponent with
  | none, none =>
    match integerNumber n.negative significand with
    | some number => .ok number
    | none => .error []
  | some _, none => double 0
  | _, some e =>
    match exponentValue 0 e.digits with
    | .ok exponent => double (if e.negative then -exponent else exponent)
    | .error unread =>
      if significand = 0 ∨ e.negative then .ok (.double (.zero n.negative)) else .error unread

/-! ## Reading -/

/-- Reads a number literal. One that is too large is reported after it, or after the digit of its
exponent that settles it. -/
def readNumber (cs : List Char) : Except Fault (Scanned Number) := do
  let (numeral, rest) ← scanNumeral .endInValue cs
  match numeral.value with
  | .ok number => return (number, rest)
  | .error unread => .error (.after .numberTooLarge (unread ++ rest))

/-- Passes over a number literal, whatever its size. -/
def skipNumber (cs : List Char) : Except Fault (List Char) :=
  (scanNumeral .malformedNumber cs).map Prod.snd

/-! The notations meet at the powers of ten `-5` and `16`, and at the ends of 64 bits. -/

example : (readNumber "1e-5".toList).map (·.1.write) = .ok "0.00001".toList := by rfl

example : (readNumber "1e-6".toList).map (·.1.write) = .ok "1e-6".toList := by rfl

example : (readNumber "1e15".toList).map (·.1.write) = .ok "1000000000000000.0".toList := by rfl

example : (readNumber "1e16".toList).map (·.1.write) = .ok "1e+16".toList := by rfl

example : (readNumber "18446744073709551616".toList).map (·.1.write) =
    .ok "1.8446744073709552e+19".toList := by rfl

end QueryGraph.Json
