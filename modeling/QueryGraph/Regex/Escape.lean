import QueryGraph.Regex.Mode
import QueryGraph.Text.Characters

/-!
# `Regex.Escape` — what follows a backslash

## Contents
- `Part` — what a part of an expression stands for.
- `numbered?` — a character given by its number.
- `escape?` — every escape.
-/

namespace QueryGraph.Regex

/-- What a part of an expression stands for. -/
inductive Part where
  /-- One character. -/
  | char (c : Char)
  /-- Any character of a set. -/
  | set
  /-- A place between characters. -/
  | place
  deriving DecidableEq, Repr

/-- Digits of base sixteen, with gaps after each. -/
def digits? (mode : Mode) : Nat → List Char → Option (List Nat × List Char)
  | 0, cs => some ([], cs)
  | _ + 1, [] => none
  | count + 1, c :: rest => do
    let digit ← Text.hexValue? c
    let (digits, rest) ← digits? mode count (mode.gap rest)
    return (digit :: digits, rest)

/-- A character given by its number, in a fixed count of digits. -/
def numbered? (mode : Mode) (count : Nat) (cs : List Char) : Option (Char × List Char) := do
  let (digits, rest) ← digits? mode count (mode.gap cs)
  let number := digits.foldl (fun n digit => 16 * n + digit) 0
  if number.isValidChar then some (Char.ofNat number, rest) else none

/-- The control characters that have a letter. -/
def controls : List (Char × Char) :=
  [('a', '\x07'), ('f', '\x0c'), ('n', '\n'), ('r', '\r'), ('t', '\t'), ('v', '\x0b')]

/-- What follows a backslash. Two digits are a byte, which is a character only if it is ASCII or if
bytes do not count. Classes and the ends of words are known for ASCII only, and what is not in an
ASCII class could be no character at all. -/
def escape? (mode : Mode) : List Char → Option (Part × List Char)
  | [] => none
  | 'x' :: rest => do
    let (c, rest) ← numbered? mode 2 rest
    if mode.ascii ∧ 0x80 ≤ c.toNat then none else some (.char c, rest)
  | 'u' :: rest => (numbered? mode 4 rest).map fun (c, rest) => (.char c, rest)
  | 'U' :: rest => (numbered? mode 8 rest).map fun (c, rest) => (.char c, rest)
  | c :: rest =>
    if ['d', 's', 'w'].contains c then if mode.ascii then some (.set, rest) else none
    else if ['b', 'B', '<', '>'].contains c then if mode.ascii then some (.place, rest) else none
    else if ['A', 'z'].contains c then some (.place, rest)
    else if c.toNat < 0x80 ∧ ¬c.isAlphanum then some (.char c, rest)
    else (controls.lookup c).map fun control => (.char control, rest)

end QueryGraph.Regex
