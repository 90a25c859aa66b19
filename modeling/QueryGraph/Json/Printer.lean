import QueryGraph.Json.StringLiteral

/-!
# `Json.Printer` — writing values

Two layouts: everything on one line without blanks, or one element or member a line, indented by two
spaces for each bracket around it. An empty array or object is written as two brackets in both.

## Contents
- `Value.compact` — on one line.
- `Value.pretty` — with line breaks.
- `Layout`, `Value.write` — either.
-/

namespace QueryGraph.Json

/-! ## On one line -/

mutual

/-- A value without any blanks. -/
def Value.compact : Value → List Char
  | .null => ['n', 'u', 'l', 'l']
  | .bool true => ['t', 'r', 'u', 'e']
  | .bool false => ['f', 'a', 'l', 's', 'e']
  | .number n => n.write
  | .string s => writeString s
  | .array elements => '[' :: (compactElements elements ++ [']'])
  | .object members => '\x7b' :: (compactMembers members ++ ['\x7d'])

/-- Elements with commas between them. -/
def compactElements : List Value → List Char
  | [] => []
  | [v] => v.compact
  | v :: w :: rest => v.compact ++ ',' :: compactElements (w :: rest)

/-- Members with commas between them. -/
def compactMembers : List (String × Value) → List Char
  | [] => []
  | [(name, v)] => writeString name ++ ':' :: v.compact
  | (name, v) :: w :: rest =>
    writeString name ++ ':' :: (v.compact ++ ',' :: compactMembers (w :: rest))

end

/-! ## With line breaks -/

/-- A line break and the indentation of what stands inside `depth` brackets. -/
def newLine (depth : Nat) : List Char := '\n' :: List.replicate (2 * depth) ' '

mutual

/-- A value that stands inside `depth` brackets. -/
def Value.prettyAt (depth : Nat) : Value → List Char
  | .null => ['n', 'u', 'l', 'l']
  | .bool true => ['t', 'r', 'u', 'e']
  | .bool false => ['f', 'a', 'l', 's', 'e']
  | .number n => n.write
  | .string s => writeString s
  | .array [] => ['[', ']']
  | .array (v :: rest) =>
    '[' :: (prettyElements (depth + 1) (v :: rest) ++ newLine depth ++ [']'])
  | .object [] => ['\x7b', '\x7d']
  | .object (member :: rest) =>
    '\x7b' :: (prettyMembers (depth + 1) (member :: rest) ++ newLine depth ++ ['\x7d'])

/-- Elements on lines of their own, with commas between them. -/
def prettyElements (depth : Nat) : List Value → List Char
  | [] => []
  | [v] => newLine depth ++ v.prettyAt depth
  | v :: w :: rest => newLine depth ++ (v.prettyAt depth ++ ',' :: prettyElements depth (w :: rest))

/-- Members on lines of their own, with commas between them. -/
def prettyMembers (depth : Nat) : List (String × Value) → List Char
  | [] => []
  | [(name, v)] => newLine depth ++ (writeString name ++ ':' :: ' ' :: v.prettyAt depth)
  | (name, v) :: w :: rest =>
    newLine depth ++ (writeString name ++ ':' :: ' ' ::
      (v.prettyAt depth ++ ',' :: prettyMembers depth (w :: rest)))

end

/-- A value with line breaks. -/
def Value.pretty (v : Value) : List Char := v.prettyAt 0

/-! ## Layouts -/

/-- How a document is laid out. -/
inductive Layout where
  | compact
  | pretty
  deriving DecidableEq, Repr, Inhabited

/-- A value in the given layout. -/
def Value.write (layout : Layout) (v : Value) : List Char :=
  match layout with
  | .compact => v.compact
  | .pretty => v.pretty

/-- A document: the value and a line feed. -/
def Value.document (layout : Layout) (v : Value) : String :=
  String.ofList (v.write layout ++ ['\n'])

end QueryGraph.Json
