import QueryGraph.Graph.Annotations
import QueryGraph.Graph.Event
import QueryGraph.Graph.NodeTable
import QueryGraph.Sparql.Query

/-!
# `Graph.Build` — from a query to its graph

The triples of the WHERE clause are drawn one after the other: a node for each new key, an edge for
each triple. When all are drawn, the `rdf:type` edges mark classes and individuals.

## Contents
- `edgeLabel`, `edgeId` — the texts of an edge.
- `Drawing`, `Drawing.draw` — a graph under construction, and one more triple.
- `Query.build` — the graph of a query and the events on the way.
-/

namespace QueryGraph

/-! ## Texts of an edge -/

/-- The label of a property path. -/
def pathLabel : String := "[path]"

/-- The label of a predicate that is neither an IRI nor a path. -/
def predicateLabel : String := "[predicate]"

/-- The text shown for a predicate. -/
def edgeLabel (prefixes : Prefixes) : Predicate → String
  | .term (.iri i) => prefixes.compact i
  | .path .. => pathLabel
  | .term _ => predicateLabel

/-- The id of an edge: its ends, its label and its number. -/
def edgeId (source label target : String) (number : Nat) : String :=
  "e:" ++ source ++ "::" ++ label ++ "::" ++ target ++ "::" ++ toString number

/-! ## Drawing -/

/-- What stays the same while a graph is drawn. -/
structure Pen where
  prefixes : Prefixes
  /-- The keys of the variables that the query returns. -/
  selected : List String
  annotations : Annotations

/-- A graph under construction. -/
structure Drawing where
  table : NodeTable
  edges : Array Edge
  events : Array Event

namespace Drawing

/-- Nothing drawn yet; some patterns may have been passed over. -/
def start (skipped : List String) : Drawing :=
  ⟨.empty, #[], (skipped.map Event.skipped).toArray⟩

/-- Makes sure that a term has a node, and reports a new one. -/
def ensure (pen : Pen) (d : Drawing) (term : Term) : Drawing :=
  match d.table.ensure pen.prefixes pen.selected term with
  | (table, _, none) => { d with table := table }
  | (table, _, some n) => { d with table := table, events := d.events.push (.newNode n.id n.kind) }

/-- The edge of a triple, as the edge with the given number. -/
def edge (pen : Pen) (number : Nat) (s : ScopedTriple) : Edge :=
  let source := s.triple.subject.key
  let target := s.triple.object.key
  let label := edgeLabel pen.prefixes s.triple.predicate
  { id := edgeId source label target number
    source := source
    target := target
    label := label
    category := edgeCategory pen.annotations s.triple.predicate s.triple.object
    effect := .unchanged
    optional := s.scope.optional
    branches := s.scope.branches
    graph := s.scope.graph.map fun name => name.label pen.prefixes }

/-- Draws one more triple: the node of its subject, the node of its object, then its edge. -/
def draw (pen : Pen) (d : Drawing) (s : ScopedTriple) : Drawing :=
  let d := (d.ensure pen s.triple.subject).ensure pen s.triple.object
  { d with edges := d.edges.push (edge pen d.edges.size s) }

/-- Making sure of a node leaves the edges alone. -/
theorem edges_ensure (pen : Pen) (d : Drawing) (term : Term) :
    (d.ensure pen term).edges = d.edges := by
  unfold ensure
  split <;> rfl

end Drawing

/-! ## The graph of a query -/

/-- The pen for a query. -/
def Query.pen (q : Query) (annotations : Annotations) : Pen :=
  ⟨q.prefixes, q.selectedKeys, annotations⟩

/-- Draws the graph of a query, and returns it with what happened on the way, in order. -/
def Query.buildWithEvents (q : Query) (annotations : Annotations) : GraphModel × List Event :=
  let walk := walkWhere q.wherePatterns
  let drawn := walk.triples.foldl (Drawing.draw (q.pen annotations)) (.start walk.skipped)
  let edges := drawn.edges.toList
  let table := drawn.table.applyTypes edges
  let count := walk.triples.length
  (⟨q.typeName, q.prefixes, table.toList, edges, count⟩,
    (drawn.events.push (.built q.typeName count table.size drawn.edges.size)).toList)

/-- The graph of a query. -/
def Query.build (q : Query) (annotations : Annotations) : GraphModel :=
  (q.buildWithEvents annotations).1

/-- The graph of a query counts the triples of its WHERE clause. -/
theorem Query.tripleCount_build (q : Query) (annotations : Annotations) :
    (q.build annotations).tripleCount = (flatten q.wherePatterns).length := rfl

end QueryGraph
