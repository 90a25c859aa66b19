import QueryGraph.Json.Value

/-!
# `Json.Fault` — what a reader reports

A reader works on what is left of the text. When it fails it hands over the cause, the text that was
left, and how many bytes past it the fault is noticed: none when the offending bytes were consumed,
one when the reader only looked at the next byte. The place of a fault, a line and a column in
bytes, is computed once, from the whole text.

## Contents
- `Cause`, `Cause.category` — causes and their kinds.
- `Fault` — a cause with the text that was left; `Scanned`, `Reader` — readers and what they return.
- `Place`, `Fault.place` — lines and columns.
- `Failure` — a cause with its place, as users see it.
-/

namespace QueryGraph.Json

/-! ## Causes -/

/-- Why a text is not what a reader expects. -/
inductive Cause where
  /-- The text ends where a value must start, or in an unfinished word or number. -/
  | endInValue
  /-- The text ends inside an array. -/
  | endInArray
  /-- The text ends inside an object. -/
  | endInObject
  /-- The text ends inside a string. -/
  | endInString
  /-- A byte that starts no value. -/
  | valueExpected
  /-- A misspelt `true`, `false` or `null`. -/
  | wordExpected
  /-- Something else than a comma or the end of an array after an element. -/
  | arraySeparatorExpected
  /-- Something else than a comma or the end of an object after a member. -/
  | objectSeparatorExpected
  /-- No colon after a member name. -/
  | colonExpected
  /-- A comma before the end of an array or object. -/
  | trailingComma
  /-- A member name that is not a string. -/
  | nameExpected
  /-- More text after the value. -/
  | trailingText
  /-- A leading zero or a missing digit. -/
  | malformedNumber
  /-- A number beyond the largest double. -/
  | numberTooLarge
  /-- A control character inside a string. -/
  | controlCharacter
  /-- A backslash before a character that it cannot escape. -/
  | malformedEscape
  /-- A surrogate that is not followed by its other half, or follows none. -/
  | unpairedSurrogate
  /-- A leading surrogate without an escape behind it. -/
  | surrogateCutShort
  /-- Too many brackets inside one another. -/
  | tooDeep
  /-- A scalar where the named kind of structure must stand. -/
  | wrongShape (found : Value) (expected : String)
  /-- A member that may be given only once is given again. -/
  | repeatedMember (name : String)
  deriving Repr

/-- The three kinds of failure: the text is no JSON, it ends too early, or it is JSON of the wrong
shape. -/
inductive Category where
  | grammar
  | ended
  | shape
  deriving DecidableEq, Repr

/-- The kind a cause belongs to. -/
def Cause.category : Cause → Category
  | endInValue | endInArray | endInObject | endInString => .ended
  | wrongShape .. | repeatedMember _ => .shape
  | _ => .grammar

/-! ## Faults -/

/-- A cause, the text that was left when it was found, and how many bytes past the start of that
text it lies. -/
structure Fault where
  /-- What is wrong. -/
  cause : Cause
  /-- The text that was not consumed. -/
  rest : List Char
  /-- How many bytes of it lie before the fault. -/
  past : Nat
  deriving Repr

namespace Fault

/-- A fault noticed after everything before `rest` was consumed. -/
def after (cause : Cause) (rest : List Char) : Fault := ⟨cause, rest, 0⟩

/-- A fault at the next byte, the first of `rest`. -/
def atNext (cause : Cause) (rest : List Char) : Fault := ⟨cause, rest, 1⟩

end Fault

/-- What a reader returns when it does not fail: a result and the text that is left. -/
abbrev Scanned (α : Type) := α × List Char

/-- A reader of values of some type at the front of a text. -/
abbrev Reader (α : Type) := List Char → Except Fault (Scanned α)

/-! ## Places -/

/-- A place in a text. -/
structure Place where
  /-- Lines are counted from one. -/
  line : Nat
  /-- Bytes since the last line feed. -/
  column : Nat
  deriving DecidableEq, Repr

namespace Place

/-- The place before the first byte. -/
def start : Place := ⟨1, 0⟩

/-- The place after one more character. -/
def advance (p : Place) (c : Char) : Place :=
  if c = '\n' then ⟨p.line + 1, 0⟩ else ⟨p.line, p.column + c.utf8Size⟩

/-- The place after some more characters. -/
def advanceAll (p : Place) (cs : List Char) : Place := cs.foldl advance p

/-- The place some bytes further into the given text, which may end inside a character; the end of
the text is never passed. -/
def advanceBytes (p : Place) : Nat → List Char → Place
  | 0, _ => p
  | _ + 1, [] => p
  | n + 1, c :: cs =>
    if c.utf8Size ≤ n + 1 then (p.advance c).advanceBytes (n + 1 - c.utf8Size) cs
    else ⟨p.line, p.column + (n + 1)⟩

end Place

/-- Where a fault lies in the text that was read. -/
def Fault.place (text : List Char) (f : Fault) : Place :=
  (Place.start.advanceAll (text.take (text.length - f.rest.length))).advanceBytes f.past f.rest

/-! ## Failures -/

/-- A cause and its place. -/
structure Failure where
  /-- What is wrong. -/
  cause : Cause
  /-- Where it is. -/
  place : Place
  deriving Repr

/-- A fault found while reading `text`. -/
def Fault.toFailure (text : List Char) (f : Fault) : Failure := ⟨f.cause, f.place text⟩

/-- The kind of a failure. -/
def Failure.category (f : Failure) : Category := f.cause.category

end QueryGraph.Json
