import QueryGraph.Rdf.Prefixes

/-!
# `Rdf.Term` — terms, their keys and their labels

## Contents
- `Term`, `Literal` — what may stand in a triple.
- `Term.key` — the text that identifies a term in a graph.
- `Term.label` — the text shown for it.
-/

namespace QueryGraph

/-- A literal: a value with an optional language tag and an optional datatype IRI. -/
structure Literal where
  /-- The lexical form. -/
  value : String
  /-- The language tag. -/
  language : Option String
  /-- The IRI of the datatype. -/
  datatype : Option String
  deriving DecidableEq, Repr, Inhabited

/-- A term in a triple pattern. -/
inductive Term where
  /-- A query variable. -/
  | var (name : String)
  /-- A full IRI. -/
  | iri (iri : String)
  /-- A blank node, local to its query. -/
  | blank (name : String)
  /-- A literal. -/
  | literal (literal : Literal)
  /-- Anything else. -/
  | unknown
  deriving DecidableEq, Repr, Inhabited

namespace Term

/-- The key that all unknown terms share. -/
def unknownKey : String := "term:unknown"

/-- The label of unknown terms. -/
def unknownLabel : String := "<?>"

/-- The IRI of a named node. -/
def asIri? : Term → Option String
  | iri i => some i
  | _ => none

/-- The text that identifies a term: a word for its kind, then what it consists of. -/
def key : Term → String
  | var name => "var:?" ++ name
  | blank name => "bnode:" ++ name
  | iri i => "iri:" ++ i
  | literal l => "lit:" ++ l.value ++ "|" ++ l.language.getD "" ++ "|" ++ l.datatype.getD ""
  | unknown => unknownKey

/-- The text shown for a term; IRIs are compacted. A language tag hides the datatype. -/
def label (prefixes : Prefixes) : Term → String
  | var name => "?" ++ name
  | blank name => "_:" ++ name
  | iri i => prefixes.compact i
  | literal l =>
    let quoted := "\"" ++ l.value ++ "\""
    match l.language, l.datatype with
    | some language, _ => quoted ++ "@" ++ language
    | none, some datatype => quoted ++ "^^" ++ prefixes.compact datatype
    | none, none => quoted
  | unknown => unknownLabel

/-- Only a named node has an IRI. -/
theorem asIri?_eq_some_iff {t : Term} {i : String} : t.asIri? = some i ↔ t = iri i := by
  cases t <;> simp [asIri?]

end Term

end QueryGraph
