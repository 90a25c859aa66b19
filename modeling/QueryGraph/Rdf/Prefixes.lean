import QueryGraph.Entries

/-!
# `Rdf.Prefixes` — prefix declarations and compact IRIs

A query declares short names for namespaces. The declarations keep their order: it decides between
namespaces of equal length, and it is the order in which they are written.

## Contents
- `Prefixes`, `insert`, `get?` — ordered declarations with distinct names.
- `bestMatch?`, `compact` — the longest namespace an IRI starts with, and the short form it gives.
- `legend` — the declarations sorted by name.
-/

namespace QueryGraph

/-- Declarations as pairs of a prefix name and a namespace, each name once. -/
@[ext]
structure Prefixes where
  /-- The declarations in order. -/
  entries : List (String × String)
  /-- A name is declared once. -/
  nodup : (entries.map Prod.fst).Nodup
  deriving DecidableEq

namespace Prefixes

/-! ## Declaring -/

/-- No declarations. -/
def empty : Prefixes := ⟨[], by simp⟩

instance : Inhabited Prefixes := ⟨empty⟩

/-- Declares a prefix, or declares it anew: a name that is there keeps its place. -/
def insert (p : Prefixes) (name ns : String) : Prefixes :=
  ⟨Entries.set name ns p.entries, Entries.nodup_set p.nodup name ns⟩

/-- Declares a list of prefixes, one after the other. -/
def ofList (declarations : List (String × String)) : Prefixes :=
  declarations.foldl (fun p d => p.insert d.1 d.2) empty

/-- The namespace of a prefix. -/
def get? (p : Prefixes) (name : String) : Option String := p.entries.lookup name

/-- How many prefixes are declared. -/
def size (p : Prefixes) : Nat := p.entries.length

/-- A prefix has the namespace it was declared with last. -/
theorem get?_insert (p : Prefixes) (name ns other : String) :
    (p.insert name ns).get? other = if other = name then some ns else p.get? other :=
  Entries.lookup_set name ns other p.entries

/-! ## Compaction -/

/-- Whether an IRI starts with a namespace. -/
def startsWith (iri ns : String) : Bool := ns.toList.isPrefixOf iri.toList

/-- One step of the search for the longest namespace: an entry takes over when its namespace fits
and is longer than the best one so far. -/
def better (iri : String) (best : Option (String × String)) (entry : String × String) :
    Option (String × String) :=
  if startsWith iri entry.2 ∧ ∀ b ∈ best, b.2.length < entry.2.length then some entry else best

/-- The declaration with the longest namespace that the IRI starts with; the earliest of several. -/
def bestMatch? (p : Prefixes) (iri : String) : Option (String × String) :=
  p.entries.foldl (better iri) none

/-- The short form of an IRI: the prefix, a colon and what follows the namespace. An IRI in no
declared namespace stays as it is. -/
def compact (p : Prefixes) (iri : String) : String :=
  match p.bestMatch? iri with
  | some (name, ns) => name ++ ":" ++ String.ofList (iri.toList.drop ns.length)
  | none => iri

/-! ## Legend -/

/-- The declarations sorted by prefix name, each name with its colon. -/
def legend (p : Prefixes) : List (String × String) :=
  (p.entries.mergeSort fun a b => decide (a.1 ≤ b.1)).map fun d => (d.1 ++ ":", d.2)

/-- The legend has a row for each declaration. -/
theorem legend_perm (p : Prefixes) : p.legend.Perm (p.entries.map fun d => (d.1 ++ ":", d.2)) :=
  (List.mergeSort_perm _ _).map _

end Prefixes

end QueryGraph
