import QueryGraph.Json.Message
import QueryGraph.Json.Reader
import QueryGraph.Json.Skip
import QueryGraph.Sparql.Decode

/-!
# `Sparql.Load` — queries from JSON text

A query is an object with named sections, or an array of them in a fixed order. Sections are read
one by one as the text goes: what no section asks for is skipped, not decoded. A section of an
unexpected type is empty rather than an error; only a text that is no JSON, no object or array, or
names a section twice, fails.

## Contents
- `Section` — the sections; `Section.read` — one of them.
- `Prefixes.read` — prefix declarations, member by member.
- `Query.read` — a query at the front of a text.
- `Query.ofText`, `Query.ofBytes` — whole documents; `LoadError` — how they fail.
-/

namespace QueryGraph

open Json

/-! ## Prefix declarations -/

namespace Prefixes

/-- Passes over an element of an array. -/
def skipElement (fuel : Nat) (_ : Unit) (cs : List Char) : Except Fault (Scanned Unit) := do
  return ((), ← skipValue fuel cs)

/-- Reads the rest of a member, given how to read values, and declares it if it is a string. -/
def addDeclaration (readValue : Reader Value) (p : Prefixes)
    (name : String) (cs : List Char) : Except Fault (Scanned Prefixes) := do
  let (v, rest) ← readValue (← colon cs)
  return (v.asString?.elim p (p.insert name), rest)

/-- Reads prefix declarations: the members of an object whose values are strings. The elements of an
array are skipped, and any other value declares nothing. -/
def read (fuel room : Nat) (cs : List Char) : Except Fault (Scanned Prefixes) :=
  match skipBlanks cs with
  | '[' :: rest =>
    match room with
    | 0 => .error (.atNext .tooDeep ('[' :: rest))
    | _ + 1 =>
      (readElements (skipElement fuel) fuel true () rest).map fun (_, rest) => (empty, rest)
  | '\x7b' :: rest =>
    match room with
    | 0 => .error (.atNext .tooDeep ('\x7b' :: rest))
    | room + 1 =>
      readMembers (addDeclaration (readValue fuel room)) fuel true empty rest
  | cs => (readValue fuel room cs).map fun (_, rest) => (empty, rest)

/-- The prefix declarations that a text stands for. -/
def ofText (text : String) : Except Failure Prefixes :=
  readDocument (fun fuel => read fuel depthLimit) text

end Prefixes

/-! ## Sections -/

/-- A section of a query. -/
inductive Section where
  | queryType
  | kind
  | prefixes
  | projection
  | patterns
  deriving DecidableEq, Repr

namespace Section

/-- The member under which a section is found. -/
def name : Section → String
  | queryType => "queryType"
  | kind => "type"
  | prefixes => "prefixes"
  | projection => "variables"
  | patterns => "where"

/-- The sections in the order in which an array holds them. -/
def all : List Section := [queryType, kind, prefixes, projection, patterns]

/-- The section with the given name. -/
def ofName? (text : String) : Option Section := all.find? fun s => s.name = text

/-- Each section is found under its name. -/
theorem ofName?_name (s : Section) : ofName? s.name = some s := by
  cases s <;> decide

/-- Enters a section into a query. Prefix declarations are not read through a value, so they stay as
they are here. -/
def enter (q : Query) (s : Section) (v : Value) : Query :=
  match s with
  | queryType => { q with queryType := v.asString? }
  | kind => { q with kind := v.asString? }
  | prefixes => q
  | projection =>
    { q with projection := match v with
      | .null => none
      | v => some (Projection.ofJson v) }
  | patterns => { q with patterns := v.asArray?.map fun entries => entries.map Pattern.ofJson }

/-- Reads a section and enters it. -/
def read (fuel room : Nat) (q : Query) (s : Section) (cs : List Char) :
    Except Fault (Scanned Query) :=
  match s with
  | prefixes => do
    let (p, rest) ← Prefixes.read fuel room cs
    return ({ q with prefixes := p }, rest)
  | s => do
    let (v, rest) ← readValue fuel room cs
    return (s.enter q v, rest)

end Section

/-! ## Queries -/

namespace Query

/-- The fault of a section that is named a second time. It lies behind the name and any blanks, and
behind a closing brace that follows. -/
def repeatedFault (s : Section) (cs : List Char) : Fault :=
  match skipBlanks cs with
  | '\x7d' :: rest => .after (.repeatedMember s.name) rest
  | rest => .after (.repeatedMember s.name) rest

/-- Reads one member of a query object, given the sections seen so far. -/
def readMember (fuel room : Nat) (state : List Section × Query) (name : String) (cs : List Char) :
    Except Fault (Scanned (List Section × Query)) :=
  let (seen, q) := state
  match Section.ofName? name with
  | none => do
    let rest ← skipValue fuel (← colon cs)
    return (state, rest)
  | some s =>
    if s ∈ seen then .error (repeatedFault s cs)
    else do
      let (q, rest) ← s.read fuel room q (← colon cs)
      return ((s :: seen, q), rest)

/-- Closes a query array after its last section. -/
def closeArray (cs : List Char) : Except Fault (List Char) :=
  match skipBlanks cs with
  | [] => .error (.after .endInArray [])
  | ']' :: rest => .ok rest
  | ',' :: rest =>
    match skipBlanks rest with
    | ']' :: rest => .error (.atNext .trailingComma (']' :: rest))
    | rest => .error (.atNext .trailingText rest)
  | rest => .error (.atNext .trailingText rest)

/-- Reads the sections of a query array; sections at the end may be missing. -/
def readSections (fuel room : Nat) (first : Bool) (q : Query) :
    List Section → List Char → Except Fault (Scanned Query)
  | [], cs => do return (q, ← closeArray cs)
  | s :: sections, cs => do
    match ← nextElement first cs with
    | (false, rest) => return (q, rest)
    | (true, rest) =>
      let (q, rest) ← s.read fuel room q rest
      readSections fuel room false q sections rest

/-- What a scalar is told to be instead. -/
def expected : String := "struct QueryAst"

/-- Reads a query. -/
def read (fuel room : Nat) (cs : List Char) : Except Fault (Scanned Query) :=
  match skipBlanks cs with
  | '[' :: rest =>
    match room with
    | 0 => .error (.atNext .tooDeep ('[' :: rest))
    | room + 1 => readSections fuel room true empty Section.all rest
  | '\x7b' :: rest =>
    match room with
    | 0 => .error (.atNext .tooDeep ('\x7b' :: rest))
    | room + 1 =>
      (readMembers (readMember fuel room) fuel true ([], empty) rest).map
        fun ((_, q), rest) => (q, rest)
  | cs => do
    let (v, rest) ← readValue fuel room cs
    .error (.after (.wrongShape v expected) rest)

end Query

/-! ## Documents -/

/-- Why a query cannot be loaded. -/
inductive LoadError where
  /-- The bytes are no UTF-8. -/
  | notUtf8
  /-- The text is no query. -/
  | json (failure : Failure)
  deriving Repr

/-- The text of a load error. -/
def LoadError.message : LoadError → String
  | notUtf8 => "IO error: stream did not contain valid UTF-8"
  | json failure => "JSON parse error: " ++ failure.message

namespace Query

/-- The query that a text stands for. -/
def ofText (text : String) : Except LoadError Query :=
  (readDocument (fun fuel => read fuel depthLimit) text).mapError .json

/-- The query that some bytes stand for. -/
def ofBytes (bytes : ByteArray) : Except LoadError Query :=
  match String.fromUTF8? bytes with
  | some text => ofText text
  | none => .error .notUtf8

end Query

end QueryGraph
