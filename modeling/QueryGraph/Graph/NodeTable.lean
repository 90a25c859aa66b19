import Std.Data.HashMap
import QueryGraph.Graph.Model

/-!
# `Graph.NodeTable` — nodes by key

The nodes of a graph under construction, in the order in which they came, with an index from ids to
positions. Each id occurs once.

An `rdf:type` edge tells something about its two ends: what it leads to is a class if it is an IRI, and
what it comes from is an individual if nothing else is known of it. Categories only move forward, from
unknown to individual to class.

## Contents
- `NodeTable`, `get?`, `contains` — looking up.
- `insert`, `ofNodes` — adding finished nodes; the first node of an id stays.
- `ensure` — the node of a term, made when its key is new.
- `update` — changing one node in place.
- `applyTypes` — marking the ends of type edges.
-/

namespace QueryGraph

/-- Nodes in order, and where to find them. -/
structure NodeTable where
  /-- The nodes in the order in which they were added. -/
  nodes : Array Node
  /-- The position of each id. -/
  index : Std.HashMap String Nat

namespace NodeTable

/-- A table without nodes. -/
def empty : NodeTable := ⟨#[], ∅⟩

instance : Inhabited NodeTable := ⟨empty⟩

/-! ## Looking up -/

/-- Whether there is a node with the given id. -/
def contains (t : NodeTable) (id : String) : Bool := t.index.contains id

/-- The node with the given id. -/
def get? (t : NodeTable) (id : String) : Option Node := t.index[id]?.bind fun i => t.nodes[i]?

/-- How many nodes there are. -/
def size (t : NodeTable) : Nat := t.nodes.size

/-- The nodes in order. -/
def toList (t : NodeTable) : List Node := t.nodes.toList

/-! ## Adding -/

/-- Adds a node unless its id is there already. -/
def insert (t : NodeTable) (n : Node) : NodeTable :=
  if t.contains n.id then t else ⟨t.nodes.push n, t.index.insert n.id t.nodes.size⟩

/-- A new node goes to the end. -/
theorem toList_insert (t : NodeTable) (n : Node) :
    (t.insert n).toList = if t.contains n.id then t.toList else t.toList ++ [n] := by
  unfold insert
  split <;> simp [toList]

/-- The ids of a table after adding a node. -/
theorem contains_insert (t : NodeTable) (n : Node) (id : String) :
    (t.insert n).contains id = (n.id == id || t.contains id) := by
  by_cases h : t.contains n.id = true
  · rw [insert, if_pos h]
    by_cases e : n.id = id
    · simp [← e, h]
    · simp [beq_eq_false_iff_ne.2 e]
  · rw [insert, if_neg h]
    simp [contains]

/-- The table of a list of nodes; of several nodes with one id the first stays. -/
def ofNodes (nodes : List Node) : NodeTable := nodes.foldl insert empty

/-- The node that a term gets when its key is new. -/
def newNode (prefixes : Prefixes) (selected : List String) (term : Term) : Node where
  id := term.key
  label := term.label prefixes
  kind := term.nodeKind
  category := term.nodeKind.category
  isSelected := selected.contains term.key

/-- Makes sure that a term has a node. Returns the table, the id of the node, and the node if it is new. -/
def ensure (t : NodeTable) (prefixes : Prefixes) (selected : List String) (term : Term) :
    NodeTable × String × Option Node :=
  if t.contains term.key then (t, term.key, none)
  else
    let n := newNode prefixes selected term
    (t.insert n, term.key, some n)

/-- A term whose key is there changes nothing. -/
theorem ensure_of_contains {t : NodeTable} {term : Term} (h : t.contains term.key = true)
    (prefixes : Prefixes) (selected : List String) :
    t.ensure prefixes selected term = (t, term.key, none) := by
  simp [ensure, h]

/-- The id of the node is the key of the term, whether the node is new or not. -/
theorem ensure_id (t : NodeTable) (prefixes : Prefixes) (selected : List String) (term : Term) :
    (t.ensure prefixes selected term).2.1 = term.key := by
  unfold ensure
  split <;> rfl

/-! ## Changing -/

/-- Changes the node with the given id, if there is one. -/
def update (t : NodeTable) (id : String) (f : Node → Node) : NodeTable :=
  match t.index[id]? with
  | some i => { t with nodes := t.nodes.modify i f }
  | none => t

/-- Changing a node leaves the index alone. -/
theorem index_update (t : NodeTable) (id : String) (f : Node → Node) :
    (t.update id f).index = t.index := by
  unfold update
  split <;> rfl

/-- Sets the category of the node with the given id, if there is one. -/
def setCategory (t : NodeTable) (id : String) (category : NodeCategory) : NodeTable :=
  t.update id fun n => { n with category := category }

end NodeTable

/-! ## Type edges -/

/-- What an `rdf:type` edge tells about its target: an IRI is a class. -/
def Node.asClass (n : Node) : Node :=
  if n.kind = .iri then { n with category := .ontologyClass } else n

/-- What an `rdf:type` edge tells about its source: anything but a literal is an individual, unless
something is known of it already. -/
def Node.asIndividual (n : Node) : Node :=
  if n.kind ≠ .literal ∧ n.category = .unknown then { n with category := .individual } else n

namespace NodeTable

/-- Marks the target of an edge, then its source, if the edge gives a class. -/
def applyType (t : NodeTable) (e : Edge) : NodeTable :=
  if e.category = .rdfType then
    (t.update e.target Node.asClass).update e.source Node.asIndividual
  else t

/-- Marks the ends of all edges that give a class, in order. -/
def applyTypes (t : NodeTable) (edges : List Edge) : NodeTable := edges.foldl applyType t

end NodeTable

end QueryGraph
