import QueryGraph.Json.Word
import QueryGraph.Json.StringLiteral

/-!
# `Json.Container` — the inside of arrays and objects

What stands between the values of an array or object: separators, names and colons. The two loops
carry a state from value to value and leave the reading of the values to a step function, so that
one loop serves every kind of content.

## Contents
- `nextElement`, `nextName`, `colon` — what comes before a value.
- `readElements`, `readMembers` — the loops; `fuel` bounds the number of values, and the length of
  the text is always enough, since every value takes a character.
- `depthLimit` — how many brackets may stand inside one another.
-/

namespace QueryGraph.Json

/-- Brackets may be nested this deep in a value that is decoded. -/
def depthLimit : Nat := 127

/-! ## Before a value -/

/-- Moves to the next element of an array: `true` and the text of the element, or `false` and the
text after the closing bracket. -/
def nextElement (first : Bool) (cs : List Char) : Except Fault (Scanned Bool) :=
  match skipBlanks cs with
  | [] => .error (.after .endInArray [])
  | ']' :: rest => .ok (false, rest)
  | c :: rest =>
    if first then .ok (true, c :: rest)
    else if c = ',' then
      match skipBlanks rest with
      | [] => .error (.after .endInValue [])
      | ']' :: rest => .error (.atNext .trailingComma (']' :: rest))
      | rest => .ok (true, rest)
    else .error (.atNext .arraySeparatorExpected (c :: rest))

/-- Reads a member name, after its opening quote. -/
def memberName (cs : List Char) : Except Fault (Scanned (Option String)) := do
  let (name, rest) ← readString cs
  return (some name, rest)

/-- Moves to the next member of an object: its name and the text after it, or nothing and the text
after the closing brace. -/
def nextName (first : Bool) (cs : List Char) : Except Fault (Scanned (Option String)) :=
  match skipBlanks cs with
  | [] => .error (.after .endInObject [])
  | '\x7d' :: rest => .ok (none, rest)
  | c :: rest =>
    if first then
      if c = '"' then memberName rest else .error (.atNext .nameExpected (c :: rest))
    else if c = ',' then
      match skipBlanks rest with
      | [] => .error (.after .endInValue [])
      | '"' :: rest => memberName rest
      | '\x7d' :: rest => .error (.atNext .trailingComma ('\x7d' :: rest))
      | rest => .error (.atNext .nameExpected rest)
    else .error (.atNext .objectSeparatorExpected (c :: rest))

/-- The text behind the colon of a member. -/
def colon (cs : List Char) : Except Fault (List Char) :=
  match skipBlanks cs with
  | [] => .error (.after .endInObject [])
  | ':' :: rest => .ok rest
  | rest => .error (.atNext .colonExpected rest)

/-! ## Loops -/

/-- Reads the elements of an array up to the closing bracket. -/
def readElements {σ : Type} (step : σ → Reader σ) :
    (fuel : Nat) → (first : Bool) → σ → Reader σ
  | 0, _, _, _ => .error (.after .endInArray [])
  | fuel + 1, first, state, cs => do
    match ← nextElement first cs with
    | (false, rest) => return (state, rest)
    | (true, rest) =>
      let (state, rest) ← step state rest
      readElements step fuel false state rest

/-- Reads the members of an object up to the closing brace. The step gets the text right after the
name, so that it can refuse a name before looking at what follows. -/
def readMembers {σ : Type} (step : σ → String → Reader σ) :
    (fuel : Nat) → (first : Bool) → σ → Reader σ
  | 0, _, _, _ => .error (.after .endInObject [])
  | fuel + 1, first, state, cs => do
    match ← nextName first cs with
    | (none, rest) => return (state, rest)
    | (some name, rest) =>
      let (state, rest) ← step state name rest
      readMembers step fuel false state rest

end QueryGraph.Json
