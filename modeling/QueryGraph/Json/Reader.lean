import QueryGraph.Entries
import QueryGraph.Json.Container
import QueryGraph.Json.Numeral

/-!
# `Json.Reader` — decoding values

## Contents
- `readValue` — a value at the front of a text; `addElement`, `addMember` — what it does inside
  brackets.
- `readDocument` — a text that holds one value and nothing else.
- `decode` — the value of a document.
-/

namespace QueryGraph.Json

/-! ## Values -/

/-- Reads one more element, given how to read values; the elements so far are held latest first. -/
def addElement (read : Reader Value) (done : List Value)
    (cs : List Char) : Except Fault (Scanned (List Value)) := do
  let (v, rest) ← read cs
  return (v :: done, rest)

/-- Reads the rest of one more member, given how to read values. A name that comes again keeps its
place and takes the new value. -/
def addMember (read : Reader Value) (done : List (String × Value))
    (name : String) (cs : List Char) : Except Fault (Scanned (List (String × Value))) := do
  let (v, rest) ← read (← colon cs)
  return (Entries.set name v done, rest)

/-- Reads a value. `room` is the number of brackets that may still be opened inside one another, and
`fuel` bounds the number of elements of any array or object. -/
def readValue (fuel : Nat) (room : Nat) (cs : List Char) : Except Fault (Scanned Value) :=
  match skipBlanks cs with
  | [] => .error (.after .endInValue [])
  | 'n' :: rest => word .null ['u', 'l', 'l'] rest
  | 't' :: rest => word (.bool true) ['r', 'u', 'e'] rest
  | 'f' :: rest => word (.bool false) ['a', 'l', 's', 'e'] rest
  | '"' :: rest => (readString rest).map fun (text, rest) => (.string text, rest)
  | '[' :: rest =>
    match room with
    | 0 => .error (.atNext .tooDeep ('[' :: rest))
    | room + 1 =>
      (readElements (addElement (readValue fuel room)) fuel true [] rest).map
        fun (done, rest) => (.array done.reverse, rest)
  | '\x7b' :: rest =>
    match room with
    | 0 => .error (.atNext .tooDeep ('\x7b' :: rest))
    | room + 1 =>
      (readMembers (addMember (readValue fuel room)) fuel true [] rest).map
        fun (done, rest) => (.object done, rest)
  | c :: rest =>
    if c = '-' ∨ c.isDigit then
      (readNumber (c :: rest)).map fun (number, rest) => (.number number, rest)
    else .error (.atNext .valueExpected (c :: rest))

/-! ## Documents -/

/-- Reads a text that holds one value: `read` gets a bound on the number of values and the text, and
only blanks may follow what it reads. -/
def readDocument {α : Type} (read : (fuel : Nat) → Reader α) (text : String) :
    Except Failure α :=
  let cs := text.toList
  let result : Except Fault α := do
    let (value, rest) ← read (cs.length + 1) cs
    match skipBlanks rest with
    | [] => return value
    | rest => .error (.atNext .trailingText rest)
  result.mapError (Fault.toFailure cs)

/-- The value that a text stands for. -/
def decode (text : String) : Except Failure Value :=
  readDocument (fun fuel => readValue fuel depthLimit) text

end QueryGraph.Json
