import QueryGraph.Graph.Build
import QueryGraph.Proofs.Graph.Typing

/-!
# `Proofs.Graph.Drawing` — nodes and edges of a built graph

A graph is drawn triple by triple. Its nodes depend on the subjects and objects alone, its edges each
on their own triple and number, so both can be written down without drawing.

## Contents
- `endpoints` — subjects and objects, in the order in which they are met.
- `table_foldl_draw`, `edges_foldl_draw` — what drawing some triples does to the table and the edges.
- `Query.drawn` — the drawing of a query, before the type edges are looked at.
- `Query.edges_build`, `Query.map_edges_build` — the edges of the graph of a query.
- `Query.nodes_build` — its nodes.
-/

namespace QueryGraph

/-- The subjects and objects of some triples, in the order in which they are met. -/
def endpoints (ts : List ScopedTriple) : List Term :=
  ts.flatMap fun s => [s.triple.subject, s.triple.object]

theorem endpoints_cons (s : ScopedTriple) (ts : List ScopedTriple) :
    endpoints (s :: ts) = s.triple.subject :: s.triple.object :: endpoints ts := rfl

theorem mem_endpoints {ts : List ScopedTriple} {t : Term} :
    t ∈ endpoints ts ↔ ∃ s ∈ ts, t = s.triple.subject ∨ t = s.triple.object := by
  simp [endpoints]

/-- The node that a term gets from a pen, before any edges are taken into account. -/
def Pen.node (pen : Pen) (term : Term) : Node := NodeTable.newNode pen.prefixes pen.selected term

namespace Drawing

/-! ## Drawing some triples -/

theorem table_start (skipped : List String) : (start skipped).table = .empty := rfl

theorem edges_start (skipped : List String) : (start skipped).edges = #[] := rfl

theorem table_ensure (pen : Pen) (d : Drawing) (term : Term) :
    (d.ensure pen term).table = d.table.insert (pen.node term) := by
  rw [Pen.node, ← NodeTable.ensure_fst, ensure]
  split <;> simp_all

theorem table_draw (pen : Pen) (d : Drawing) (s : ScopedTriple) :
    (d.draw pen s).table =
      (d.table.insert (pen.node s.triple.subject)).insert (pen.node s.triple.object) := by
  rw [draw, table_ensure, table_ensure]

/-- **Drawing some triples** adds the nodes of their endpoints to the table, one by one. -/
theorem table_foldl_draw (pen : Pen) (d : Drawing) (ts : List ScopedTriple) :
    (ts.foldl (draw pen) d).table =
      ((endpoints ts).map pen.node).foldl NodeTable.insert d.table := by
  induction ts generalizing d with
  | nil => rfl
  | cons s ts ih =>
      rw [List.foldl_cons, ih, table_draw, endpoints_cons]
      rfl

theorem edges_draw (pen : Pen) (d : Drawing) (s : ScopedTriple) :
    (d.draw pen s).edges = d.edges.push (edge pen d.edges.size s) := by
  rw [draw, edges_ensure, edges_ensure]

/-- **Drawing some triples** adds their edges, numbered from the number of edges that are there. -/
theorem edges_foldl_draw (pen : Pen) (d : Drawing) (ts : List ScopedTriple) :
    (ts.foldl (draw pen) d).edges.toList =
      d.edges.toList ++ ts.mapIdx fun i s => edge pen (d.edges.size + i) s := by
  induction ts generalizing d with
  | nil => simp
  | cons s ts ih =>
      rw [List.foldl_cons, ih, edges_draw, Array.toList_push, Array.size_push, List.mapIdx_cons,
        List.append_assoc, List.singleton_append, Nat.add_zero]
      congr 3
      funext i t
      rw [Nat.add_assoc, Nat.add_comm 1]

end Drawing

attribute [ext] GraphModel

namespace Query

/-! ## The graph of a query -/

/-- A query that consists of its WHERE clause. -/
def ofPatterns (ps : List Pattern) : Query := { empty with patterns := some ps }

/-- A query with another WHERE clause. -/
def withPatterns (q : Query) (ps : List Pattern) : Query := { q with patterns := some ps }

/-- The triples of a query in their scopes. -/
def scopedTriples (q : Query) : List ScopedTriple := flatten q.wherePatterns

/-- The drawing of all triples of a query, before the type edges are looked at. -/
def drawn (q : Query) (a : Annotations) : Drawing :=
  q.scopedTriples.foldl (Drawing.draw (q.pen a)) (.start (walkWhere q.wherePatterns).skipped)

theorem scopedTriples_withPatterns (q : Query) (ps : List Pattern) :
    (q.withPatterns ps).scopedTriples = flatten ps := rfl

/-- The WHERE clause plays no part in how things are drawn. -/
theorem pen_withPatterns (q : Query) (ps : List Pattern) (a : Annotations) :
    (q.withPatterns ps).pen a = q.pen a := rfl

theorem build_eq (q : Query) (a : Annotations) :
    q.build a = ⟨q.typeName, q.prefixes,
      ((q.drawn a).table.applyTypes (q.drawn a).edges.toList).toList, (q.drawn a).edges.toList,
      q.scopedTriples.length⟩ := rfl

/-- **The edges of a graph** are those of the triples, in order. -/
theorem edges_build (q : Query) (a : Annotations) :
    (q.build a).edges = q.scopedTriples.mapIdx (Drawing.edge (q.pen a)) := by
  rw [q.build_eq a]
  show (q.drawn a).edges.toList = _
  rw [drawn, Drawing.edges_foldl_draw, Drawing.edges_start, Array.toList_empty, Array.size_empty,
    List.nil_append]
  simp only [Nat.zero_add]

theorem getElem?_edges_build (q : Query) (a : Annotations) (i : Nat) :
    (q.build a).edges[i]? = q.scopedTriples[i]?.map (Drawing.edge (q.pen a) i) := by
  rw [edges_build, List.getElem?_mapIdx]

/-- What does not depend on the number of an edge is a matter of its triple. -/
theorem map_edges_build {α : Type} {f : Edge → α} {g : ScopedTriple → α} (q : Query) (a : Annotations)
    (h : ∀ i s, f (Drawing.edge (q.pen a) i s) = g s) :
    (q.build a).edges.map f = q.scopedTriples.map g := by
  apply List.ext_getElem?
  intro i
  rw [List.getElem?_map, getElem?_edges_build, List.getElem?_map, Option.map_map]
  congr 1
  funext s
  exact h i s

/-- **The nodes of a graph** are those of the first endpoints by key, when the edges have been taken
into account. -/
theorem nodes_build (q : Query) (a : Annotations) :
    (q.build a).nodes =
      (firstBy Term.key (endpoints q.scopedTriples)).map fun t =>
        ((q.pen a).node t).typed (q.build a).edges := by
  have hnodes : (q.build a).nodes = ((q.drawn a).table.applyTypes (q.build a).edges).toList := by
    rw [q.build_eq a]
  rw [hnodes, drawn, Drawing.table_foldl_draw, Drawing.table_start,
    (NodeTable.indexed_empty.foldl_insert _).toList_applyTypes]
  rw [NodeTable.toList_foldl_insert_empty, firstBy_map, List.map_map]
  rfl

end Query

end QueryGraph
