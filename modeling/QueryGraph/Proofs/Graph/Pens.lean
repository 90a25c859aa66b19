import QueryGraph.Proofs.Graph.Retyping
import QueryGraph.Proofs.Graph.Roles

/-!
# `Proofs.Graph.Pens` — the same triples, drawn with different pens

What a query says besides its WHERE clause comes into its graph through the pen: prefixes, selected
variables and annotation predicates. None of them has a say in which terms get a node, in which order
the nodes and edges come, or in what the type edges make of a node, since keys and type triples are
read off the terms. So to compare two graphs of the same triples it is enough to compare what the two
pens make of a single term and of a single triple.

## Contents
- `Query.typed_build_eq` — type edges make the same of a node.
- `Query.map_nodes_build_eq` — nodes agree in whatever the pens agree in.
- `Query.nodes_build_eq`, `Query.edges_build_eq` — pens that draw alike.
-/

namespace QueryGraph.Query

variable {q q' : Query} {a a' : Annotations} {α : Type}

/-- **Type edges** are those of the type triples, whatever the pen. -/
theorem typed_build_eq (h : q'.scopedTriples = q.scopedTriples) (n : Node) :
    n.typed (q'.build a').edges = n.typed (q.build a).edges := by
  have htriples : q'.triples = q.triples := congrArg (List.map ScopedTriple.triple) h
  apply Node.typed_congr
  · rw [leadsTo_build_iff, leadsTo_build_iff, htriples]
  · rw [comesFrom_build_iff, comesFrom_build_iff, htriples]

/-- **The nodes of two graphs agree** in what the pens agree in for every term. -/
theorem map_nodes_build_eq {f : Node → α} (h : q'.scopedTriples = q.scopedTriples)
    (hnode : ∀ t es, f (((q'.pen a').node t).typed es) = f (((q.pen a).node t).typed es)) :
    (q'.build a').nodes.map f = (q.build a).nodes.map f := by
  rw [nodes_build, nodes_build, h, List.map_map, List.map_map]
  apply List.map_congr_left
  intro t _
  show f (((q'.pen a').node t).typed (q'.build a').edges) = f (((q.pen a).node t).typed (q.build a).edges)
  rw [typed_build_eq h, hnode]

/-- Pens that draw all terms alike draw the same nodes. -/
theorem nodes_build_eq (h : q'.scopedTriples = q.scopedTriples)
    (hnode : ∀ t, (q'.pen a').node t = (q.pen a).node t) : (q'.build a').nodes = (q.build a).nodes := by
  have hsame : (q'.build a').nodes.map id = (q.build a).nodes.map id := by
    apply map_nodes_build_eq h
    intro t es
    rw [hnode]
  rw [List.map_id, List.map_id] at hsame
  exact hsame

/-- Pens that draw all triples alike draw the same edges. -/
theorem edges_build_eq (h : q'.scopedTriples = q.scopedTriples)
    (hedge : ∀ i s, Drawing.edge (q'.pen a') i s = Drawing.edge (q.pen a) i s) :
    (q'.build a').edges = (q.build a).edges := by
  have hpens : Drawing.edge (q'.pen a') = Drawing.edge (q.pen a) := by
    funext i s
    exact hedge i s
  rw [edges_build, edges_build, h, hpens]

end QueryGraph.Query
