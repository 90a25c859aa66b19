import QueryGraph.Regex.Escape
import QueryGraph.Regex.Nesting

/-!
# `Regex.Charset` — sets of characters in square brackets

A set has characters, ranges, named sets and further sets as its parts, and may be combined from
several sets by a sign written twice.

## Contents
- `namedSet?` — sets with a name between colons.
- `setStart?` — the first signs of a set.
- `afterRange?` — one part.
- `Level`, `charset?` — whole sets, with their depth.
-/

namespace QueryGraph.Regex

/-- The sets that have a name between colons. -/
def setNames : List String :=
  ["alnum", "alpha", "ascii", "blank", "cntrl", "digit", "graph", "lower", "print", "punct",
    "space", "upper", "word", "xdigit"]

/-- A named set, from its first colon, and whether it holds what is not in it instead. -/
def namedSet? : List Char → Option (Bool × List Char)
  | ':' :: cs =>
    let negated := cs.head? = some '^'
    let cs := if negated then cs.drop 1 else cs
    match cs.dropWhile (· ≠ ':') with
    | ':' :: ']' :: rest =>
      if setNames.contains (String.ofList (cs.takeWhile (· ≠ ':'))) then some (negated, rest)
      else none
    | _ => none
  | _ => none

/-- Minus signs with gaps after each. The fuel bounds their count. -/
def minusSigns (mode : Mode) (fuel : Nat) (parts : Row) (cs : List Char) : Row × List Char :=
  match fuel, cs with
  | fuel + 1, '-' :: rest => minusSigns mode fuel (parts.push 0) (mode.gap rest)
  | _, _ => (parts, cs)

/-- The first signs in a set, which stand for themselves only there: after a caret come either minus
signs or one closing bracket. All characters but some of ASCII are no set of ASCII, and no character
can stand where its other cases are needed. -/
def setStart? (mode : Mode) (cs : List Char) : Option (Row × List Char) :=
  let cs := mode.gap cs
  let negated := cs.head? = some '^'
  let (parts, rest) :=
    match if negated then mode.gap (cs.drop 1) else cs with
    | ']' :: rest => (Row.empty.push 0, rest)
    | inside => minusSigns mode inside.length .empty inside
  if mode.ascii ∧ negated ∨ mode.needsCases ∧ parts.count ≠ 0 then none else some (parts, rest)

/-- A character of a set, or what an escape stands for. -/
def setPart? (mode : Mode) (cs : List Char) : Option (Part × List Char) := do
  let (part, rest) ←
    match cs with
    | [] => none
    | '\\' :: rest => escape? mode rest
    | c :: rest => some (.char c, rest)
  match part with
  | .char c => if mode.ascii ∧ 0x80 ≤ c.toNat then none else some (part, rest)
  | _ => some (part, rest)

/-- The next sign after the first character of a text, as far as ranges look ahead: gaps are passed
over up to the first number sign and the blanks behind it. -/
def nextSign? (mode : Mode) (rest : List Char) : Option Char :=
  let ahead := rest.dropWhile Text.isBlank
  let ahead := if ahead.head? = some '#' then (ahead.drop 1).dropWhile Text.isBlank else ahead
  if mode.spaced then ahead.head? <|> rest.head? else rest.head?

/-- What follows a part of a set, or a range from one character to a later one. A minus sign before
another one or before the end makes no range. -/
def afterRange? (mode : Mode) (cs : List Char) : Option (List Char) := do
  let (first, rest) ← setPart? mode cs
  match mode.gap rest with
  | '-' :: more =>
    if nextSign? mode more = some ']' ∨ nextSign? mode more = some '-' then
      if first = .place then none else some ('-' :: more)
    else
      match first, ← setPart? mode (mode.gap more) with
      | .char a, (.char b, rest) => if a ≤ b then some rest else none
      | _, _ => none
  | rest => if first = .place then none else some rest

/-- A set that has not ended yet. -/
structure Level where
  /-- The depth of the sets before the last sign that combines, if there is one. -/
  left : Option Nat
  /-- The parts since. -/
  parts : Row
  deriving DecidableEq, Repr, Inhabited

namespace Level

/-- The depth of what is in a set. -/
def depth (level : Level) : Nat :=
  match level.left with
  | none => level.parts.depth
  | some left => 1 + max left level.parts.depth

/-- One part more, of the given depth. -/
def push (level : Level) (depth : Nat) : Level := { level with parts := level.parts.push depth }

/-- After a sign that combines. -/
def combined (level : Level) : Level := ⟨some level.depth, .empty⟩

end Level

/-- The rest of a set: its depth and what follows it. The sets around it that have not ended are in
a list, the innermost first. The fuel bounds the steps, of which each takes a character. -/
def charset? (mode : Mode) (fuel : Nat) (outer : List Level) (level : Level) (cs : List Char) :
    Option (Nat × List Char) :=
  match fuel with
  | 0 => none
  | fuel + 1 =>
    match mode.gap cs with
    | [] => none
    | '[' :: rest =>
      match namedSet? rest with
      | some (negated, rest) =>
        if mode.ascii && negated || mode.needsCases then none
        else charset? mode fuel outer (level.push 0) rest
      | none => do
        let (parts, rest) ← setStart? mode rest
        charset? mode fuel (level :: outer) ⟨none, parts⟩ rest
    | ']' :: rest =>
      match outer with
      | [] => some (level.depth + 1, rest)
      | around :: outer => charset? mode fuel outer (around.push (level.depth + 1)) rest
    | c :: rest =>
      if ['&', '-', '~'].contains c ∧ rest.head? = some c then
        charset? mode fuel outer level.combined (rest.drop 1)
      else if mode.needsCases then none
      else do charset? mode fuel outer (level.push 0) (← afterRange? mode (c :: rest))

end QueryGraph.Regex
