import QueryGraph.Json.Fault
import QueryGraph.Text.Characters

/-!
# `Json.StringLiteral` — string literals

Writing, reading and skipping the text between two quotes. Reading decodes escapes and pairs
surrogates; skipping checks the form of escapes only, so half a surrogate pair passes.

## Contents
- `escape`, `writeString` — the written form.
- `hexUnit?` — the number in four base-sixteen digits.
- `readString` — decodes the rest of a literal, after the opening quote.
- `skipString` — passes over the rest of a literal.
-/

namespace QueryGraph.Json

/-! ## Writing -/

/-- The written form of one character: quotes, backslashes and control characters are escaped. -/
def escape (c : Char) : List Char :=
  match c with
  | '"' => ['\\', '"']
  | '\\' => ['\\', '\\']
  | '\x08' => ['\\', 'b']
  | '\x0c' => ['\\', 'f']
  | '\n' => ['\\', 'n']
  | '\r' => ['\\', 'r']
  | '\t' => ['\\', 't']
  | c =>
    if c.toNat < 0x20 then
      ['\\', 'u', '0', '0', Text.hexDigit (c.toNat / 16), Text.hexDigit (c.toNat % 16)]
    else [c]

/-- A string between quotes. -/
def writeString (s : String) : List Char := '"' :: (s.toList.flatMap escape ++ ['"'])

/-! ## Escapes -/

/-- The character that one letter after a backslash stands for. -/
def escapedBy? : Char → Option Char
  | '"' => some '"'
  | '\\' => some '\\'
  | '/' => some '/'
  | 'b' => some '\x08'
  | 'f' => some '\x0c'
  | 'n' => some '\n'
  | 'r' => some '\r'
  | 't' => some '\t'
  | _ => none

/-- The number in four digits of base sixteen. -/
def hexUnit? (a b c d : Char) : Option Nat := do
  let a ← Text.hexValue? a
  let b ← Text.hexValue? b
  let c ← Text.hexValue? c
  let d ← Text.hexValue? d
  return ((a * 16 + b) * 16 + c) * 16 + d

/-- The fault of a text that should start with four base-sixteen digits: four bytes are consumed
before they are checked, and a text of fewer bytes ends too early. -/
def hexFault (cs : List Char) : Fault :=
  if (String.ofList (cs.take 4)).utf8ByteSize < 4 then .after .endInString []
  else ⟨.malformedEscape, cs, 4⟩

/-- Whether a number is the first half of a surrogate pair. -/
def isLeading (n : Nat) : Bool := 0xD800 ≤ n && n < 0xDC00

/-- Whether a number is the second half of a surrogate pair. -/
def isTrailing (n : Nat) : Bool := 0xDC00 ≤ n && n < 0xE000

/-- The character that two halves stand for. -/
def pairChar (leading trailing : Nat) : Char :=
  Char.ofNat (0x10000 + (leading - 0xD800) * 0x400 + (trailing - 0xDC00))

/-! ## Reading -/

/-- Decodes the rest of a string literal onto the characters read so far, the latest first. -/
def readStringOnto (done : List Char) : List Char → Except Fault (Scanned String)
  | [] => .error (.after .endInString [])
  | '"' :: rest => .ok (String.ofList done.reverse, rest)
  | '\\' :: rest =>
    match rest with
    | [] => .error (.after .endInString [])
    | 'u' :: rest =>
      match rest with
      | a :: b :: c :: d :: rest' =>
        match hexUnit? a b c d with
        | none => .error (hexFault rest)
        | some unit =>
          if isTrailing unit then .error (.after .unpairedSurrogate rest')
          else if isLeading unit then
            match rest' with
            | [] => .error (.after .endInString [])
            | '\\' :: rest =>
              match rest with
              | [] => .error (.after .endInString [])
              | 'u' :: rest =>
                match rest with
                | a :: b :: c :: d :: rest' =>
                  match hexUnit? a b c d with
                  | none => .error (hexFault rest)
                  | some second =>
                    if isTrailing second then readStringOnto (pairChar unit second :: done) rest'
                    else .error (.after .unpairedSurrogate rest')
                | short => .error (hexFault short)
              | other => .error (.atNext .surrogateCutShort other)
            | other => .error (.atNext .surrogateCutShort other)
          else readStringOnto (Char.ofNat unit :: done) rest'
      | short => .error (hexFault short)
    | letter :: rest' =>
      match escapedBy? letter with
      | some c => readStringOnto (c :: done) rest'
      | none => .error (.atNext .malformedEscape (letter :: rest'))
  | c :: rest =>
    if c.toNat < 0x20 then .error (.atNext .controlCharacter (c :: rest))
    else readStringOnto (c :: done) rest

/-- Decodes the rest of a string literal, after the opening quote. -/
def readString (cs : List Char) : Except Fault (Scanned String) := readStringOnto [] cs

/-! ## Skipping -/

/-- Passes over the rest of a string literal, after the opening quote. A control character is
reported before it is consumed. -/
def skipString : List Char → Except Fault (List Char)
  | [] => .error (.after .endInString [])
  | '"' :: rest => .ok rest
  | '\\' :: rest =>
    match rest with
    | [] => .error (.after .endInString [])
    | 'u' :: rest =>
      match rest with
      | a :: b :: c :: d :: rest' =>
        if (hexUnit? a b c d).isSome then skipString rest' else .error (hexFault rest)
      | short => .error (hexFault short)
    | letter :: rest' =>
      if (escapedBy? letter).isSome then skipString rest'
      else .error (.atNext .malformedEscape (letter :: rest'))
  | c :: rest =>
    if c.toNat < 0x20 then .error (.after .controlCharacter (c :: rest)) else skipString rest

end QueryGraph.Json
