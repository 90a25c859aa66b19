import QueryGraph.Text.CaseTable

/-!
# `Text.LowerCase` — lower-casing a text

Each character is replaced by its lower-case form. Two characters are special: capital I with a dot
becomes an i and a combining dot, and a capital sigma at the end of a word takes its final form.

## Contents
- `lowerChar` — one character, apart from the sigma.
- `isFinalSigma` — whether a sigma between two texts ends a word.
- `lowerCase` — a whole text.
-/

namespace QueryGraph.Text

/-- The lower-case form of a character, without regard to its neighbours. -/
def lowerChar (c : Char) : List Char :=
  if c = '\u0130' then ['i', '\u0307'] else
  let n := c.toNat
  match lowerCaseRuns.find? fun r => r.first ≤ n && n ≤ r.last && (n - r.first) % r.step == 0 with
  | some run => [Char.ofNat ((n : Int) + run.offset).toNat]
  | none => [c]

/-- Whether the first character that matters is a cased one. -/
def startsCased (cs : List Char) : Bool :=
  match cs.dropWhile (inRanges caseIgnorable) with
  | [] => false
  | c :: _ => inRanges cased c

/-- Whether a capital sigma after `before` (nearest character first) and before `rest` ends a word.
-/
def isFinalSigma (before rest : List Char) : Bool := startsCased before && !startsCased rest

/-- The lower-case form of a text, given the characters before it, the nearest first. -/
def lowerCaseFrom (before : List Char) : List Char → List Char
  | [] => []
  | c :: rest =>
    let lowered :=
      if c = 'Σ' then [if isFinalSigma before rest then 'ς' else 'σ'] else lowerChar c
    lowered ++ lowerCaseFrom (c :: before) rest

/-- The lower-case form of a text. -/
def lowerCase (text : String) : String := String.ofList (lowerCaseFrom [] text.toList)

/-! A sigma takes its final form at the end of a word only. -/

example : lowerCase "ΣΑΣ" = "σας" := by decide +kernel

example : lowerCase "ΑΣΑ" = "ασα" := by decide +kernel

end QueryGraph.Text
