import QueryGraph.Graph.Event
import QueryGraph.Regex.Syntax

/-!
# `Command.LogFilter` — which events are shown

A filter is a list of directives, each with a level. A directive may name a target, which is the
start of the name of a part of the program, and in square brackets a span of time that the events
lie in, and in braces a field that the events have, or its value. The most specific directive that
fits an event decides whether it is shown.

No spans are opened here and the values of fields are compared only in spans, so directives with
either never fit an event.

## Contents
- `detailOf?` — the text of a level.
- `FieldCondition`, `FieldCondition.parse?` — a field and its text.
- `Directive`, `Directive.parse?` — a directive and its text.
- `Directive.fits`, `Directive.yieldsTo` — which events it is about, and which of two decides.
- `LogFilter`, `LogFilter.parse?`, `LogFilter.shows` — filters.
- `logFilter?` — the filter of a run.
-/

namespace QueryGraph.Command

/-! ## Levels -/

/-- The detail that a number stands for: digits, after a plus sign or not. -/
def detailOfNumber? (text : List Char) : Option Nat :=
  let digits := if text.head? = some '+' then text.drop 1 else text
  if digits ≠ [] ∧ digits.all Char.isDigit then
    let number := digits.foldl (fun n c => 10 * n + (c.toNat - '0'.toNat)) 0
    if number ≤ Level.trace.detail then some number else none
  else none

/-- The detail of the least important level shown: a level by name, in any case, or by number; zero
and `off` show nothing. -/
def detailOf? (text : List Char) : Option Nat :=
  match String.ofList (text.map Char.toLower) with
  | "off" => some 0
  | "error" => some Level.error.detail
  | "warn" => some Level.warn.detail
  | "info" => some Level.info.detail
  | "debug" => some Level.debug.detail
  | "trace" => some Level.trace.detail
  | _ => detailOfNumber? text

/-- The detail behind an equals sign. No text shows everything. -/
def detailOrAll? (text : List Char) : Option Nat :=
  if text.isEmpty then some Level.trace.detail else detailOf? text

/-! ## Conditions on fields -/

/-- A field that is there, or has a value. -/
structure FieldCondition where
  name : String
  value : Option String
  deriving DecidableEq, Repr

namespace FieldCondition

/-- Whether a text is a number after a plus sign. -/
def isPlusNumber : List Char → Bool
  | '+' :: cs =>
    let whole := cs.takeWhile Char.isDigit
    let rest := cs.drop whole.length
    let fraction := if rest.head? = some '.' then (rest.drop 1).takeWhile Char.isDigit else []
    let rest := if rest.head? = some '.' then rest.drop (fraction.length + 1) else rest
    let digitsOnly (cs : List Char) : Bool := !cs.isEmpty && cs.all Char.isDigit
    ["inf", "infinity", "nan"].contains (String.ofList (cs.map Char.toLower)) ||
      (!whole.isEmpty || !fraction.isEmpty) &&
        match rest with
        | [] => true
        | mark :: sign :: power =>
          (mark = 'e' ∨ mark = 'E') &&
            (digitsOnly (sign :: power) || (sign = '+' ∨ sign = '-') && digitsOnly power)
        | _ => false
  | _ => false

/-- Reads a name, with a value behind an equals sign or not. A value is a number or a regular
expression. -/
def parse? (text : List Char) : Option FieldCondition :=
  match text.splitOn '=' with
  | [] => none
  | [name] => if name.isEmpty then none else some ⟨String.ofList name, none⟩
  | name :: value :: _ =>
    if isPlusNumber value || Regex.isRegex value then
      some ⟨String.ofList name, some (String.ofList value)⟩
    else none

end FieldCondition

/-! ## Directives -/

/-- Shows some events up to some detail. -/
structure Directive where
  /-- The start of the name of the part that reports; without one all parts are meant. -/
  target : Option String
  /-- The span that the events lie in. -/
  span : Option String
  /-- The field that the events have. -/
  field : Option FieldCondition
  /-- The detail of the least important level shown; zero shows nothing. -/
  detail : Nat
  deriving DecidableEq, Repr

namespace Directive

/-- The directive about all events. -/
def ofDetail (detail : Nat) : Directive := ⟨none, none, none, detail⟩

/-- The directive about the events of a part. -/
def ofTarget (target : String) (detail : Nat) : Directive := ⟨some target, none, none, detail⟩

/-! ### Reading

The marks of a directive are looked for behind the blanks at its start, but the pieces between them
are cut from the whole text as if it had no such blanks, so with blanks every piece starts too
early. -/

/-- The piece of a text between two places. -/
def piece (whole : List Char) (start stop : Nat) : List Char := (whole.take stop).drop start

/-- Reads what stands in square brackets, from the place behind the opening one: a span, a field in
braces, or both. The place behind the closing one comes with them. -/
def brackets? (whole cs : List Char) (start : Nat) :
    Option (Option String × Option FieldCondition × Nat) :=
  let stop := start + ((cs.drop start).takeWhile fun c => c ≠ ']' ∧ c ≠ '\x7b').length
  let span := String.ofList (piece whole start stop)
  match cs.drop stop with
  | ']' :: _ => some (some span, none, stop + 1)
  | '\x7b' :: inside =>
    let length := (inside.takeWhile (· ≠ '\x7d')).length
    match inside.drop length with
    | '\x7d' :: ']' :: _ =>
      (FieldCondition.parse? (piece whole (stop + 1) (stop + 1 + length))).map fun field =>
        (if stop = start then none else some span, some field, stop + length + 3)
    | _ => none
  | _ => none

/-- Reads the level at a place: behind an equals sign, or none at the end of the text. -/
def detailAt? (whole cs : List Char) (place : Nat) : Option Nat :=
  match cs.drop place with
  | [] => some Level.trace.detail
  | '=' :: _ => detailOrAll? (whole.drop (place + 1))
  | _ => none

/-- Reads the brackets from a place, and the level behind them. -/
def bracketed? (target : Option String) (whole cs : List Char) (start : Nat) :
    Option Directive := do
  let (span, field, place) ← brackets? whole cs start
  return ⟨target, span, field, ← detailAt? whole cs place⟩

/-- Whether a character may come first in a directive without brackets. -/
def startsTarget (c : Char) : Bool := ['-', ':', '_'].contains c || Text.isAlphanumeric c

/-- Reads a directive. A text without brackets and an equals sign is a level if it can be. -/
def parse? (text : List Char) : Option Directive :=
  let cs := Text.trim text
  match cs with
  | [] => none
  | '[' :: _ => bracketed? none text cs 1
  | c :: _ =>
    let stop := (cs.takeWhile fun c => c ≠ '=' ∧ c ≠ '[').length
    let target := String.ofList (text.take stop)
    if ¬startsTarget c then none
    else
      match cs.drop stop with
      | '[' :: _ => bracketed? (some target) text cs (stop + 1)
      | '=' :: _ => (detailOrAll? (text.drop (stop + 1))).map (ofTarget target)
      | _ =>
        match detailOf? text with
        | some detail => some (ofDetail detail)
        | none => some (ofTarget (String.ofList text) Level.trace.detail)

/-! ### Deciding -/

/-- Whether a directive is about an event. -/
def fits (d : Directive) (e : Event) : Bool :=
  d.span.isNone &&
    d.target.all (fun target => target.toList.isPrefixOf e.target.toList) &&
    d.field.all fun field => field.value.isNone && e.fieldNames.contains field.name

/-- How specific the target of a directive is: its length, or nothing. -/
def weight (d : Directive) : Nat := (d.target.map fun target => target.utf8ByteSize + 1).getD 0

/-- Whether another directive that fits the same event decides instead, if it comes later: its
target is longer or the same, and then its field has the later name or the same. -/
def yieldsTo (d other : Directive) : Bool :=
  let name (d : Directive) : String := (d.field.map FieldCondition.name).getD ""
  decide (d.weight < other.weight) ||
    (d.weight == other.weight && !decide (name other < name d))

end Directive

/-! ## Filters -/

/-- A list of directives. -/
structure LogFilter where
  directives : List Directive
  deriving DecidableEq, Repr

namespace LogFilter

/-- Reads directives with commas between them; a text without any shows errors only. -/
def parse? (text : String) : Option LogFilter :=
  let parts := (text.toList.splitOn ',').filter (¬ ·.isEmpty)
  if parts.isEmpty then some ⟨[.ofDetail Level.error.detail]⟩
  else (parts.mapM Directive.parse?).map LogFilter.mk

/-- The most specific directive about an event; the later one of two that are equally specific. -/
def decisive? (f : LogFilter) (e : Event) : Option Directive :=
  (f.directives.filter fun d => d.fits e).foldl (fun best d =>
    if best.all fun b => b.yieldsTo d then some d else best) none

/-- Whether an event is shown. -/
def shows (f : LogFilter) (e : Event) : Bool :=
  (f.decisive? e).any fun d => e.level.detail ≤ d.detail

end LogFilter

/-! ## Runs -/

/-- The filter used when none is asked for: the details of this program if it is verbose, otherwise
warnings. -/
def defaultFilter (verbose : Bool) : LogFilter :=
  if verbose then ⟨[.ofTarget "sparql2graph" Level.debug.detail]⟩
  else ⟨[.ofDetail Level.warn.detail]⟩

/-- The filter of a run: none when it is quiet, otherwise the one asked for if it can be read. -/
def logFilter? (verbose quiet : Bool) (asked : Option String) : Option LogFilter :=
  if quiet then none else some ((asked.bind LogFilter.parse?).getD (defaultFilter verbose))

end QueryGraph.Command
