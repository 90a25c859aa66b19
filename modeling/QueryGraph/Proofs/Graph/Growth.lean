import QueryGraph.Proofs.Graph.Drawing

/-!
# `Proofs.Graph.Growth` — what is drawn stays when the WHERE clause grows

Patterns added at the end of a WHERE clause add triples behind those that are there. The edges drawn so
far keep their numbers and their unions; the nodes drawn so far keep their places and their first terms.
Only the category of a node may change, since a later triple can tell what it is, and it changes in one
direction: what is unknown may turn out to be an individual or a class, and an individual a class.

## Contents
- `NodeCategory.UpTo` — the same category, or one that is further along.
- `Node.GrowsInto` — the same node, with a category that may be further along.
- `Node.OnTheWay`, `Node.growsInto_typed` — type edges move categories forward only.
- `flatten_append` — the triples of a longer WHERE clause.
- `Query.build_append` — the main statement.
-/

namespace QueryGraph

/-! ## Categories move forward -/

/-- What may become known of a node, from nothing to everything. -/
def NodeCategory.course : List NodeCategory := [.unknown, .individual, .ontologyClass]

/-- One category is another, or comes before it on the course. -/
def NodeCategory.UpTo (c d : NodeCategory) : Prop := c = d ∨ [c, d].Sublist course

theorem NodeCategory.upTo_ontologyClass {c : NodeCategory} (h : c ∈ course) : c.UpTo .ontologyClass := by
  have hcases : c = .unknown ∨ c = .individual ∨ c = .ontologyClass := by
    simpa [course] using h
  rcases hcases with rfl | rfl | rfl
  · exact Or.inr (by decide)
  · exact Or.inr (by decide)
  · exact Or.inl rfl

/-- **A node has become another**: it may be known better, and is otherwise the same. -/
structure Node.GrowsInto (n m : Node) : Prop where
  id : m.id = n.id
  label : m.label = n.label
  kind : m.kind = n.kind
  isSelected : m.isSelected = n.isSelected
  category : n.category.UpTo m.category

namespace Node

/-- An IRI has no category outside the course. -/
def OnTheWay (n : Node) : Prop := n.kind = .iri → n.category ∈ NodeCategory.course

theorem onTheWay_node (pen : Pen) (t : Term) : (pen.node t).OnTheWay := by
  intro hkind
  have hcategory : (pen.node t).category = (pen.node t).kind.category := rfl
  rw [hcategory, hkind]
  decide

theorem OnTheWay.typed {n : Node} (h : n.OnTheWay) (es : List Edge) : (n.typed es).OnTheWay := by
  intro hkind
  show n.typedCategory es ∈ NodeCategory.course
  unfold typedCategory
  split
  · decide
  · split
    · decide
    · exact h hkind

/-- **Type edges move a category forward**, if it is one that can be moved. -/
theorem growsInto_typed {n : Node} (h : n.OnTheWay) (es : List Edge) : n.GrowsInto (n.typed es) where
  id := rfl
  label := rfl
  kind := rfl
  isSelected := rfl
  category := by
    show n.category.UpTo (n.typedCategory es)
    unfold typedCategory
    by_cases hclass : n.kind = .iri ∧ LeadsTo es n.id
    · rw [if_pos hclass]
      exact NodeCategory.upTo_ontologyClass (h hclass.1)
    · rw [if_neg hclass]
      by_cases hindividual : n.kind ≠ .literal ∧ n.category = .unknown ∧ ComesFrom es n.id
      · rw [if_pos hindividual, hindividual.2.1]
        exact Or.inr (by decide)
      · rw [if_neg hindividual]
        exact Or.inl rfl

end Node

/-! ## More patterns -/

/-- The triples of a longer WHERE clause come behind those of a shorter one, which keep their scopes. -/
theorem flatten_append (ps qs : List Pattern) :
    flatten (ps ++ qs) = flatten ps ++ (walkAll .root (walkWhere ps).unions qs).triples := by
  unfold flatten walkWhere
  rw [walkAll_append]
  rfl

theorem endpoints_append (ts us : List ScopedTriple) :
    endpoints (ts ++ us) = endpoints ts ++ endpoints us := List.flatMap_append

namespace Query

variable (q : Query) (a : Annotations) (ps qs : List Pattern)

/-- **The edges stay**, with their ids and their unions, in front of the new ones. -/
theorem edges_build_append :
    ∃ es, ((q.withPatterns (ps ++ qs)).build a).edges = ((q.withPatterns ps).build a).edges ++ es := by
  rw [edges_build, edges_build, scopedTriples_withPatterns, scopedTriples_withPatterns, flatten_append,
    List.mapIdx_append, pen_withPatterns, pen_withPatterns]
  exact ⟨_, rfl⟩

/-- **Each node stays** at its place, and may be known better. -/
theorem exists_growsInto_build_append {i : Nat} {n : Node}
    (hn : ((q.withPatterns ps).build a).nodes[i]? = some n) :
    ∃ m, ((q.withPatterns (ps ++ qs)).build a).nodes[i]? = some m ∧ n.GrowsInto m := by
  obtain ⟨es, hes⟩ := q.edges_build_append a ps qs
  -- The node is that of the first term at its place, and the longer clause has the same term there.
  rw [nodes_build, List.getElem?_map, Option.map_eq_some_iff, pen_withPatterns,
    scopedTriples_withPatterns] at hn
  obtain ⟨t, ht, rfl⟩ := hn
  have hplace : (firstBy Term.key (endpoints (flatten (ps ++ qs))))[i]? = some t := by
    obtain ⟨later, hlater⟩ := firstBy_prefix_append Term.key (endpoints (flatten ps))
      (endpoints (walkAll .root (walkWhere ps).unions qs).triples)
    rw [flatten_append, endpoints_append, ← hlater,
      List.getElem?_append_left (List.getElem?_eq_some_iff.mp ht).1]
    exact ht
  refine ⟨(((q.pen a).node t).typed _).typed es, ?_, Node.growsInto_typed ?_ es⟩
  · rw [nodes_build, List.getElem?_map, scopedTriples_withPatterns, hplace, pen_withPatterns, hes,
      Option.map_some, Node.typed_append]
  · exact (Node.onTheWay_node (q.pen a) t).typed _

/-- **A WHERE clause that grows at its end does not disturb its graph.** The edges are the same, in front
of the new ones. The nodes are the same, in the same places; all that may happen to one of them is that
more becomes known of it. -/
theorem build_append :
    ((q.withPatterns ps).build a).edges <+: ((q.withPatterns (ps ++ qs)).build a).edges ∧
    ∀ (i : Nat) (n : Node), ((q.withPatterns ps).build a).nodes[i]? = some n →
      ∃ m, ((q.withPatterns (ps ++ qs)).build a).nodes[i]? = some m ∧ n.GrowsInto m := by
  refine ⟨?_, fun i n hn => q.exists_growsInto_build_append a ps qs hn⟩
  obtain ⟨es, hes⟩ := q.edges_build_append a ps qs
  exact ⟨es, hes.symm⟩

end Query

end QueryGraph
