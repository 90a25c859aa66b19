import QueryGraph.Proofs.Graph.Drawing
import QueryGraph.Proofs.Tree.Flatten

/-!
# `Proofs.Graph.Invariants` — what a built graph keeps to

Whoever reads a graph relies on more than its two lists: that the edges are the triples, one by one,
that an id names one node, that both ends of an edge are there, and that no node stands alone. All of it
follows from the two equations for edges and nodes.

## Contents
- `GraphModel.Depicts` — a graph shows exactly the WHERE clause of a query.
- `exists_edge_iff`, `find?_of_mem_nodes` — which edges and which nodes there are.
- `nodup_nodeIds_build` — an id names one node.
- `exists_node?_of_mem_edges`, `exists_edge_of_mem_nodes` — edges have nodes, nodes have edges.
- `Query.build_depicts` — the main statement.
-/

namespace QueryGraph

/-- The ends of an edge, by id. -/
def Edge.ends (e : Edge) : String × String := (e.source, e.target)

/-- The keys of the subject and the object of a triple. -/
def Triple.ends (t : Triple) : String × String := (t.subject.key, t.object.key)

/-- **A graph shows the WHERE clause of a query.** -/
structure GraphModel.Depicts (g : GraphModel) (q : Query) : Prop where
  /-- The triples in basic patterns are counted. -/
  tripleCount : g.tripleCount = (places q.wherePatterns).length
  /-- Each of them has an edge. -/
  length_edges : g.edges.length = (places q.wherePatterns).length
  /-- The edges join the keys of subject and object, triple by triple. -/
  ends : ∀ i : Nat, g.edges[i]?.map Edge.ends = q.scopedTriples[i]?.map fun s => s.triple.ends
  /-- No id comes twice. -/
  nodup_ids : (g.nodes.map Node.id).Nodup
  /-- The ids are the keys of subjects and objects, in the order in which they are first met. -/
  ids : g.nodes.map Node.id = ((endpoints q.scopedTriples).map Term.key).eraseDups
  /-- Both ends of an edge are found. -/
  resolved : ∀ e ∈ g.edges, (∃ n, g.node? e.source = some n) ∧ ∃ n, g.node? e.target = some n
  /-- No node is without an edge. -/
  attached : ∀ n ∈ g.nodes, ∃ e ∈ g.edges, e.source = n.id ∨ e.target = n.id
  /-- A node shows the first of the subjects and objects that has its key. -/
  shown : ∀ n ∈ g.nodes, ∃ t, (endpoints q.scopedTriples).find? (fun t => t.key == n.id) = some t ∧
    n.label = t.label q.prefixes ∧ n.kind = t.nodeKind

theorem GraphModel.mem_of_node? {g : GraphModel} {id : String} {n : Node}
    (h : g.node? id = some n) : n ∈ g.nodes := List.mem_of_find?_eq_some h

namespace Query

/-! ## Edges -/

variable {q : Query} {a : Annotations}

/-- **The ends of the edges** are those of the triples. -/
theorem map_ends_build (q : Query) (a : Annotations) :
    (q.build a).edges.map Edge.ends = q.scopedTriples.map fun s => s.triple.ends :=
  q.map_edges_build a fun _ _ => rfl

/-- An edge joins the keys of some triple, and each triple has such an edge. -/
theorem exists_edge_iff {source target : String} :
    (∃ e ∈ (q.build a).edges, e.source = source ∧ e.target = target) ↔
      ∃ s ∈ q.scopedTriples, s.triple.subject.key = source ∧ s.triple.object.key = target := by
  have hends : (source, target) ∈ (q.build a).edges.map Edge.ends ↔
      (source, target) ∈ q.scopedTriples.map fun s => s.triple.ends := by
    rw [map_ends_build]
  simpa only [List.mem_map, Edge.ends, Triple.ends, Prod.mk.injEq] using hends

/-! ## Nodes -/

theorem ids_build_eq (q : Query) (a : Annotations) :
    (q.build a).nodes.map Node.id = (firstBy Term.key (endpoints q.scopedTriples)).map Term.key := by
  rw [nodes_build, List.map_map]
  rfl

/-- **An id names one node.** -/
theorem nodup_nodeIds_build (q : Query) (a : Annotations) : ((q.build a).nodes.map Node.id).Nodup := by
  rw [ids_build_eq]
  exact nodup_map_firstBy Term.key _

theorem mem_ids_build {id : String} :
    id ∈ (q.build a).nodes.map Node.id ↔ ∃ t ∈ endpoints q.scopedTriples, t.key = id := by
  rw [ids_build_eq, mem_map_firstBy, List.mem_map]

/-- The id of a node is the key of an endpoint. -/
theorem exists_endpoint_of_mem_nodes {n : Node} (h : n ∈ (q.build a).nodes) :
    ∃ t ∈ endpoints q.scopedTriples, t.key = n.id :=
  mem_ids_build.mp (List.mem_map_of_mem h)

/-- A node is that of the first endpoint with its id. -/
theorem find?_of_mem_nodes {n : Node} (h : n ∈ (q.build a).nodes) :
    ∃ t, (endpoints q.scopedTriples).find? (fun t => t.key == n.id) = some t ∧
      n = ((q.pen a).node t).typed (q.build a).edges := by
  rw [nodes_build] at h
  obtain ⟨t, ht, rfl⟩ := List.mem_map.mp h
  exact ⟨t, find?_of_mem_firstBy ht, rfl⟩

/-- An id finds a node exactly when it is the key of an endpoint. -/
theorem exists_node?_iff {id : String} :
    (∃ n, (q.build a).node? id = some n) ↔ ∃ t ∈ endpoints q.scopedTriples, t.key = id := by
  rw [← mem_ids_build (a := a), List.mem_map, ← Option.isSome_iff_exists, GraphModel.node?,
    List.find?_isSome]
  simp only [decide_eq_true_eq]

theorem exists_node?_key {t : Term} (ht : t ∈ endpoints q.scopedTriples) :
    ∃ n, (q.build a).node? t.key = some n := exists_node?_iff.mpr ⟨t, ht, rfl⟩

/-! ## Nodes and edges together -/

/-- **Both ends of an edge are found.** -/
theorem exists_node?_of_mem_edges {e : Edge} (he : e ∈ (q.build a).edges) :
    (∃ n, (q.build a).node? e.source = some n) ∧ ∃ n, (q.build a).node? e.target = some n := by
  obtain ⟨s, hs, hsource, htarget⟩ := exists_edge_iff.mp ⟨e, he, rfl, rfl⟩
  rw [← hsource, ← htarget]
  exact ⟨exists_node?_key (mem_endpoints.mpr ⟨s, hs, Or.inl rfl⟩),
    exists_node?_key (mem_endpoints.mpr ⟨s, hs, Or.inr rfl⟩)⟩

/-- **No node stands alone.** -/
theorem exists_edge_of_mem_nodes {n : Node} (hn : n ∈ (q.build a).nodes) :
    ∃ e ∈ (q.build a).edges, e.source = n.id ∨ e.target = n.id := by
  obtain ⟨t, ht, hkey⟩ := exists_endpoint_of_mem_nodes hn
  obtain ⟨s, hs, ht⟩ := mem_endpoints.mp ht
  obtain ⟨e, he, hsource, htarget⟩ := exists_edge_iff.mpr ⟨s, hs, rfl, rfl⟩
  refine ⟨e, he, ?_⟩
  rcases ht with rfl | rfl
  · exact Or.inl (hsource.trans hkey)
  · exact Or.inr (htarget.trans hkey)

/-- **The graph of a query shows its WHERE clause**, whatever predicates lead to annotations. -/
theorem build_depicts (q : Query) (a : Annotations) : (q.build a).Depicts q where
  tripleCount := by
    rw [tripleCount_build, flatten_eq, List.length_map]
  length_edges := by
    rw [edges_build, List.length_mapIdx, scopedTriples, flatten_eq, List.length_map]
  ends := by
    intro i
    rw [← List.getElem?_map, map_ends_build, List.getElem?_map]
  nodup_ids := by
    rw [ids_build_eq]
    exact nodup_map_firstBy Term.key _
  ids := by
    rw [ids_build_eq, map_firstBy]
  resolved := fun _ => exists_node?_of_mem_edges
  attached := fun _ => exists_edge_of_mem_nodes
  shown := by
    intro n hn
    obtain ⟨t, ht, hnode⟩ := find?_of_mem_nodes hn
    refine ⟨t, ht, ?_⟩
    rw [hnode]
    exact ⟨rfl, rfl⟩

end Query

end QueryGraph
