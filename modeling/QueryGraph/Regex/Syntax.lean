import QueryGraph.Regex.Charset
import QueryGraph.Text.Alphanumeric

/-!
# `Regex.Syntax` — which texts are regular expressions

An expression is read from its start to its end, and only whether it can be read is decided. What
needs tables of all characters is refused: classes such as `\w`, the ends of words and caseless
characters, except where a flag switches them to ASCII. Looking ahead or back, repeating what groups
have matched, and counts in braces are refused too.

## Contents
- `State` — how far an expression has been read.
- `group?` — what follows an opening parenthesis.
- `scan` — the rest of an expression.
- `isRegex` — whole texts.
-/

namespace QueryGraph.Regex

/-! ## States -/

/-- A group that has not ended yet, or the whole expression. -/
structure Frame where
  /-- How what comes next is read. -/
  mode : Mode
  /-- The alternatives before. -/
  branches : Row
  /-- The items of the last alternative. -/
  items : Row
  deriving DecidableEq, Repr, Inhabited

namespace Frame

/-- A group in which nothing has been read. -/
def start (mode : Mode) : Frame := ⟨mode, .empty, .empty⟩

/-- The depth of what is in a group. -/
def depth (f : Frame) : Nat := (f.branches.push f.items.depth).depth

end Frame

/-- How far an expression has been read. -/
structure State where
  /-- The groups around the innermost one, the innermost first. -/
  outer : List Frame
  /-- The innermost group. -/
  frame : Frame
  /-- Whether something comes before that can be repeated. -/
  repeatable : Bool
  /-- The names of groups so far. -/
  names : List (List Char)
  deriving Inhabited

namespace State

/-- Nothing has been read. -/
def start : State := ⟨[], .start .plain, false, []⟩

/-- How what comes next is read. -/
def mode (s : State) : Mode := s.frame.mode

/-- After an item of the given depth. -/
def push (s : State) (depth : Nat) : State :=
  { s with frame.items := s.frame.items.push depth, repeatable := true }

/-- After flags that stand alone. They count as an item, but cannot be repeated. -/
def flagged (s : State) (mode : Mode) : State :=
  { s.push 0 with frame.mode := mode, repeatable := false }

/-- After a sign that repeats the last item. -/
def repeated (s : State) : State := { s with frame.items := s.frame.items.deepen }

/-- After a bar between alternatives. -/
def branched (s : State) : State :=
  { s with
    frame.branches := s.frame.branches.push s.frame.items.depth
    frame.items := .empty
    repeatable := false }

/-- Inside a new group, read in the given mode. -/
def opened (s : State) (mode : Mode) : State :=
  { s with outer := s.frame :: s.outer, frame := .start mode, repeatable := false }

/-- After the end of a group, if one is open. -/
def closed? (s : State) : Option State :=
  match s.outer with
  | [] => none
  | around :: outer => some ({ s with outer := outer, frame := around }.push (s.frame.depth + 1))

/-- Whether an expression can end: no group is open, and none was too deep. -/
def complete (s : State) : Bool := s.outer.isEmpty && s.frame.depth ≤ maxNesting

end State

/-! ## Groups -/

/-- Whether a text can name a group. -/
def isGroupName : List Char → Bool
  | [] => false
  | c :: rest =>
    (c = '_' || Text.isAlphabetic c) &&
      rest.all fun c => ['_', '.', '[', ']'].contains c || Text.isAlphanumeric c

/-- A group whose name comes next. No two groups have the same name. -/
def namedGroup? (s : State) (cs : List Char) : Option (State × List Char) :=
  let name := cs.takeWhile (· ≠ '>')
  if isGroupName name ∧ name ∉ s.names ∧ name.length < cs.length then
    some ({ s.opened s.mode with names := name :: s.names }, cs.drop (name.length + 1))
  else none

/-- What follows an opening parenthesis: a name, flags, or nothing special. -/
def group? (s : State) : List Char → Option (State × List Char)
  | '?' :: 'P' :: '<' :: rest => namedGroup? s rest
  | '?' :: '<' :: rest => namedGroup? s rest
  | '?' :: rest => do
    let flags := rest.takeWhile fun c => c ≠ ':' ∧ c ≠ ')'
    let mode ← s.mode.flagged? flags
    match rest.drop flags.length with
    | ':' :: rest => some (s.opened mode, rest)
    | ')' :: rest => if flags.isEmpty then none else some (s.flagged mode, rest)
    | _ => none
  | cs => some (s.opened s.mode, cs)

/-! ## Whole texts -/

/-- Reads on from a state to the end. The fuel bounds the steps, of which each takes a character. -/
def scan (fuel : Nat) (s : State) (cs : List Char) : Bool :=
  match fuel with
  | 0 => false
  | fuel + 1 =>
    match s.mode.gap cs with
    | [] => s.complete
    | '(' :: rest => (group? s (s.mode.gap rest)).any fun (s, rest) => scan fuel s rest
    | ')' :: rest => s.closed?.any fun s => scan fuel s rest
    | '|' :: rest => scan fuel s.branched rest
    | '[' :: rest =>
      ((setStart? s.mode rest).bind fun (parts, rest) =>
        charset? s.mode fuel [] ⟨none, parts⟩ rest).any
          fun (depth, rest) => scan fuel (s.push depth) rest
    | '\\' :: rest => (escape? s.mode rest).any fun (part, rest) =>
      !(s.mode.needsCases && part ≠ .place) && scan fuel (s.push 0) rest
    | c :: rest =>
      if ['?', '*', '+'].contains c then
        s.repeatable && scan fuel s.repeated (if rest.head? = some '?' then rest.drop 1 else rest)
      else if c = '\x7b' then false
      else if c = '.' then !s.mode.ascii && scan fuel (s.push 0) rest
      else if c = '^' ∨ c = '$' then scan fuel (s.push 0) rest
      else !s.mode.needsCases && scan fuel (s.push 0) rest

/-- Whether a text is a regular expression. -/
def isRegex (cs : List Char) : Bool := scan (cs.length + 1) .start cs

/-! Brackets have to close, and something has to stand before a star. Where blanks stand for
nothing, a set cannot hold just one. -/

example : isRegex "f(il|[^a-d]+?)t.*".toList = true := by decide +kernel

example : ["(", "a)", "[b", "*", "(|+)", "[z-a]", "\\w", "(?i)x", "(?x)[ ]"].all
    (fun text => !isRegex text.toList) = true := by decide +kernel

end QueryGraph.Regex
