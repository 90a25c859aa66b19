import QueryGraph.Text.Characters

/-!
# `Regex.Mode` — how an expression is read

Flags inside an expression change how what follows is read.

## Contents
- `Mode`, `Mode.flagged?` — what flags switch.
- `Mode.gap` — what is passed over between the parts of an expression.
-/

namespace QueryGraph.Regex

/-- How an expression is read. -/
structure Mode where
  /-- Letters stand for themselves in either case. -/
  caseless : Bool
  /-- Classes hold ASCII characters only. -/
  ascii : Bool
  /-- Blanks and comments stand for nothing. -/
  spaced : Bool
  deriving DecidableEq, Repr, Inhabited

namespace Mode

/-- How an expression is read at first. -/
def plain : Mode := ⟨false, false, false⟩

/-- Whether characters would need their other cases, for which there is no table. Those of ASCII
need none. -/
def needsCases (mode : Mode) : Bool := mode.caseless && !mode.ascii

/-! ## Flags -/

/-- Whether something is switched on after flags. -/
def switched (flag : Char) (on off : List Char) (before : Bool) : Bool :=
  on.contains flag || (before && !off.contains flag)

/-- The mode after flags: those before the minus sign are switched on, those after it off. No sign
comes twice, and something follows the minus sign. -/
def flagged? (mode : Mode) (flags : List Char) : Option Mode :=
  let on := flags.takeWhile (· ≠ '-')
  let off := flags.drop on.length
  if flags.all ("-imsUuRx".toList.contains ·) ∧ flags.Nodup ∧ off ≠ ['-'] then
    some ⟨switched 'i' on off mode.caseless, switched 'u' off on mode.ascii,
      switched 'x' on off mode.spaced⟩
  else none

/-! ## Gaps -/

/-- What follows blanks and comments. A comment goes from a number sign to the end of the line. -/
def afterGap (comment : Bool) : List Char → List Char
  | [] => []
  | c :: rest =>
    if comment then afterGap (c ≠ '\n') rest
    else if Text.isBlank c then afterGap false rest
    else if c = '#' then afterGap true rest
    else c :: rest

/-- The text after a gap, if gaps are allowed. -/
def gap (mode : Mode) (cs : List Char) : List Char := if mode.spaced then afterGap false cs else cs

end Mode

end QueryGraph.Regex
