import QueryGraph.Rdf.Term

/-!
# `Sparql.Pattern` — triple patterns and the WHERE tree

## Contents
- `Predicate` — a term or a property path.
- `Triple` — a triple pattern.
- `Pattern` — a node of the WHERE tree.
-/

namespace QueryGraph

/-- What stands between subject and object: a term, or a property path with its operator and
operands. Paths are kept, not evaluated. -/
inductive Predicate where
  | term (term : Term)
  | path (operator : String) (operands : List Predicate)
  deriving Repr

instance : Inhabited Predicate := ⟨.term .unknown⟩

/-- The IRI of a predicate that is a named node. -/
def Predicate.asIri? : Predicate → Option String
  | term t => t.asIri?
  | path .. => none

/-- Only a plain named node has an IRI. -/
theorem Predicate.asIri?_eq_some_iff {p : Predicate} {i : String} :
    p.asIri? = some i ↔ p = .term (.iri i) := by
  cases p <;> simp [asIri?, Term.asIri?_eq_some_iff]

/-- A triple pattern. -/
structure Triple where
  subject : Term
  predicate : Predicate
  object : Term
  deriving Repr, Inhabited

/-- A node of the WHERE tree. -/
inductive Pattern where
  /-- A basic graph pattern. -/
  | basic (triples : List Triple)
  /-- `OPTIONAL { ... }` -/
  | optional (patterns : List Pattern)
  /-- `{ ... } UNION { ... }`, one list of patterns for each branch. -/
  | union (branches : List (List Pattern))
  /-- `{ ... }` -/
  | group (patterns : List Pattern)
  /-- `GRAPH name { ... }` -/
  | graph (name : Term) (patterns : List Pattern)
  /-- Any other kind of pattern, which is not drawn. -/
  | other (kind : String)
  deriving Repr

instance : Inhabited Pattern := ⟨.other ""⟩

end QueryGraph
