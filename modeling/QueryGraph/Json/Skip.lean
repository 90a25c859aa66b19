import QueryGraph.Json.Container
import QueryGraph.Json.Numeral

/-!
# `Json.Skip` — passing over values

A value nobody asks for is not decoded: its syntax is checked, but not the size of its numbers, the
pairing of its surrogates or its depth. The open brackets are kept in a list.

## Contents
- `Bracket` — an open bracket, and the causes that belong to it.
- `toNextValue` — from the end of a value to the start of the next one, closing brackets on the way.
- `skipValue` — a whole value.
-/

namespace QueryGraph.Json

/-- An open bracket of a skipped value. -/
inductive Bracket where
  | array
  | object
  deriving DecidableEq, Repr

namespace Bracket

/-- The character that closes a bracket. -/
def closer : Bracket → Char
  | array => ']'
  | object => '\x7d'

/-- The fault of a text that ends inside the bracket. -/
def atEnd : Bracket → Cause
  | array => .endInArray
  | object => .endInObject

/-- The fault of a wrong character behind a value. -/
def separatorExpected : Bracket → Cause
  | array => .arraySeparatorExpected
  | object => .objectSeparatorExpected

/-- The text at which the next value inside the bracket starts: in an object, after its name and
colon. -/
def beforeValue : Bracket → List Char → Except Fault (List Char)
  | array, cs => .ok cs
  | object, cs =>
    match skipBlanks cs with
    | [] => .error (.after .endInObject [])
    | '"' :: rest => do colon (← skipString rest)
    | rest => .error (.atNext .nameExpected rest)

end Bracket

/-- Goes on after a value, or after an opening bracket if `comma` is not allowed yet: closes
brackets as long as they close, then moves to the next value. The result is the list of brackets
still open, with the text of the next value; no brackets mean that the whole value has been passed.
-/
def toNextValue (comma : Bool) : List Bracket → List Char → Except Fault (Scanned (List Bracket))
  | [], cs => .ok ([], cs)
  | bracket :: outer, cs =>
    match skipBlanks cs with
    | [] => .error (.after bracket.atEnd [])
    | c :: rest =>
      if c = bracket.closer then toNextValue true outer rest
      else if ¬comma then (bracket.beforeValue (c :: rest)).map (bracket :: outer, ·)
      else if c = ',' then (bracket.beforeValue rest).map (bracket :: outer, ·)
      else .error (.atNext bracket.separatorExpected (c :: rest))

/-- Passes over a scalar or an opening bracket. Says whether a comma may follow, and which brackets
are open then. -/
def skipToken (stack : List Bracket) (cs : List Char) :
    Except Fault (Scanned (Bool × List Bracket)) :=
  let scalar (rest : List Char) := ((true, stack), rest)
  match skipBlanks cs with
  | [] => .error (.after .endInValue [])
  | 'n' :: rest => word (true, stack) ['u', 'l', 'l'] rest
  | 't' :: rest => word (true, stack) ['r', 'u', 'e'] rest
  | 'f' :: rest => word (true, stack) ['a', 'l', 's', 'e'] rest
  | '"' :: rest => (skipString rest).map scalar
  | '[' :: rest => .ok ((false, .array :: stack), rest)
  | '\x7b' :: rest => .ok ((false, .object :: stack), rest)
  | c :: rest =>
    if c = '-' ∨ c.isDigit then (skipNumber (c :: rest)).map scalar
    else .error (.atNext .valueExpected (c :: rest))

/-- Passes over a value inside some open brackets and over everything up to the end of the outermost
one. Every round takes a character, so the length of the text is enough `fuel`. -/
def skipInside : (fuel : Nat) → List Bracket → List Char → Except Fault (List Char)
  | 0, _, _ => .error (.after .endInValue [])
  | fuel + 1, stack, cs => do
    let ((comma, stack), rest) ← skipToken stack cs
    match ← toNextValue comma stack rest with
    | ([], rest) => return rest
    | (stack, rest) => skipInside fuel stack rest

/-- Passes over a value. -/
def skipValue (fuel : Nat) (cs : List Char) : Except Fault (List Char) := skipInside fuel [] cs

end QueryGraph.Json
