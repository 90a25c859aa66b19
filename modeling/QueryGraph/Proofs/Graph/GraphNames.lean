import QueryGraph.Proofs.Graph.Drawing
import QueryGraph.Proofs.Rdf.Label
import QueryGraph.Proofs.Tree.Flatten

/-!
# `Proofs.Graph.GraphNames` — the graphs of a query, told apart by its edges

An edge shows the name of the GRAPH block that its triple stands in, the innermost one. It shows the
label of the name, as it is shown to people, and not the name itself. So edges of one graph show the same
name, but edges that show the same name need not belong to one graph: they do when the names can be
recognized.

## Contents
- `Query.graphNames` — the names of the innermost GRAPH blocks, read off the tree.
- `Query.map_graph_edges_build` — what the edges show.
- `label?_eq_iff` — labels of names, or of none.
- `Query.graph_edges_eq_iff` — the main statement.
- `Query.graph_edges_sharedLabel` — two graphs with one label.
-/

namespace QueryGraph

namespace Query

/-- The names of the graphs that the triples of a query stand in, triple by triple: that of the innermost
GRAPH block around its place in the tree, or none. -/
def graphNames (q : Query) : List (Option Term) :=
  (places q.wherePatterns).map fun x => (scopeAt q.wherePatterns x.address).graph

theorem graphNames_eq (q : Query) : q.graphNames = q.scopedTriples.map fun s => s.scope.graph := by
  rw [graphNames, scopedTriples, flatten_eq, List.map_map]
  rfl

/-- **An edge shows the label** of the name of its graph. -/
theorem map_graph_edges_build (q : Query) (a : Annotations) :
    (q.build a).edges.map Edge.graph = q.graphNames.map (Option.map (Term.label q.prefixes)) := by
  rw [graphNames_eq, List.map_map]
  exact q.map_edges_build a fun _ _ => rfl

end Query

/-- **Recognizable names are told apart by their labels**, and no label tells that there is no name. -/
theorem label?_eq_iff {p : Prefixes} {s t : Option Term} (hs : ∀ n ∈ s, n.IsRecognizable p)
    (ht : ∀ n ∈ t, n.IsRecognizable p) :
    s.map (Term.label p) = t.map (Term.label p) ↔ s = t := by
  refine ⟨fun h => ?_, fun h => by rw [h]⟩
  cases s with
  | none => exact (Option.map_eq_none_iff.mp h.symm).symm
  | some name =>
      obtain ⟨name', rfl, hlabel⟩ := Option.map_eq_some_iff.mp h.symm
      rw [Term.eq_of_label_eq (hs name rfl) (ht name' rfl) hlabel.symm]

namespace Query

/-- **Edges tell graphs apart as far as labels do.** An edge shows no graph if its triple is in none. Two
edges show the same if the names of their graphs have the same label or if both triples are in no graph.
So do edges of one graph, and when the names are recognizable, no others. -/
theorem graph_edges_eq_iff (q : Query) (a : Annotations) {i j : Nat} {e f : Edge}
    (he : (q.build a).edges[i]? = some e) (hf : (q.build a).edges[j]? = some f) :
    ∃ s t, q.graphNames[i]? = some s ∧ q.graphNames[j]? = some t ∧
      (e.graph = none ↔ s = none) ∧
      (e.graph = f.graph ↔ s.map (Term.label q.prefixes) = t.map (Term.label q.prefixes)) ∧
      (s = t → e.graph = f.graph) ∧
      ((∀ n ∈ s, n.IsRecognizable q.prefixes) → (∀ n ∈ t, n.IsRecognizable q.prefixes) →
        (e.graph = f.graph ↔ s = t)) := by
  -- What an edge shows, by its number.
  have hshown : ∀ {i : Nat} {e : Edge}, (q.build a).edges[i]? = some e →
      ∃ s, q.graphNames[i]? = some s ∧ s.map (Term.label q.prefixes) = e.graph := by
    intro i e he
    have hgraph : ((q.build a).edges.map Edge.graph)[i]? = some e.graph := by
      rw [List.getElem?_map, he, Option.map_some]
    rw [map_graph_edges_build, List.getElem?_map] at hgraph
    exact Option.map_eq_some_iff.mp hgraph
  obtain ⟨s, hs, hse⟩ := hshown he
  obtain ⟨t, ht, htf⟩ := hshown hf
  refine ⟨s, t, hs, ht, ?_, ?_, ?_, fun hs' ht' => ?_⟩
  · rw [← hse, Option.map_eq_none_iff]
  · rw [hse, htf]
  · rintro rfl
    rw [← hse, htf]
  · rw [← hse, ← htf]
    exact label?_eq_iff hs' ht'

/-- A triple outside any graph, one in a graph, one in a graph inside it, and one in the first graph again. -/
def nestedGraphs : Query :=
  let leaf : Pattern := .basic [⟨.var "s", .term (.iri "p"), .var "o"⟩]
  { ofPatterns [leaf, .graph (.var "g") [leaf, .optional [.graph (.iri "http://a/x") [leaf]]],
      .graph (.var "g") [leaf]] with
    prefixes := .ofList [("a", "http://a/")] }

/-- The edges tell the inner graph from the one around it. -/
theorem graph_edges_nestedGraphs :
    nestedGraphs.graphNames = [none, some (.var "g"), some (.iri "http://a/x"), some (.var "g")] ∧
    ∃ e f g, (nestedGraphs.build .standard).edges[1]? = some e ∧
      (nestedGraphs.build .standard).edges[2]? = some f ∧
      (nestedGraphs.build .standard).edges[3]? = some g ∧
      e.graph = g.graph ∧ e.graph ≠ f.graph := by
  have hedge := nestedGraphs.getElem?_edges_build .standard
  obtain ⟨_, _, hs, ht, -, -, hsame, -⟩ :=
    graph_edges_eq_iff nestedGraphs .standard (i := 1) (j := 3) (hedge 1) (hedge 3)
  obtain ⟨_, _, hs', ht', -, -, -, hdiffers⟩ :=
    graph_edges_eq_iff nestedGraphs .standard (i := 1) (j := 2) (hedge 1) (hedge 2)
  obtain rfl := Option.some.inj hs
  obtain rfl := Option.some.inj ht
  obtain rfl := Option.some.inj hs'
  obtain rfl := Option.some.inj ht'
  refine ⟨rfl, _, _, _, hedge 1, hedge 2, hedge 3, hsame rfl, fun h => ?_⟩
  have hvar : ∀ n ∈ some (Term.var "g"), n.IsRecognizable nestedGraphs.prefixes := by
    rintro _ ⟨⟩
    trivial
  have hiri : ∀ n ∈ some (Term.iri "http://a/x"), n.IsRecognizable nestedGraphs.prefixes := by
    rintro _ ⟨⟩
    exact ⟨by decide, by decide⟩
  exact absurd ((hdiffers hvar hiri).mp h) (by decide)

/-- A triple in each of two graphs. The name of the first one is compacted, that of the second one looks as
if it were. -/
def sharedLabel : Query :=
  let leaf : Pattern := .basic [⟨.var "s", .term (.iri "p"), .var "o"⟩]
  { ofPatterns [.graph (.iri "http://x/b") [leaf], .graph (.iri "a:b") [leaf]] with
    prefixes := .ofList [("a", "http://x/")] }

/-- **Edges do not tell these two graphs apart.** -/
theorem graph_edges_sharedLabel :
    ¬ ∀ (i j : Nat) (e f : Edge) (s t : Option Term),
      (sharedLabel.build .standard).edges[i]? = some e → (sharedLabel.build .standard).edges[j]? = some f →
      sharedLabel.graphNames[i]? = some s → sharedLabel.graphNames[j]? = some t →
      (e.graph = f.graph ↔ s = t) := by
  intro h
  have hedge := sharedLabel.getElem?_edges_build .standard
  have hsame := (h 0 1 _ _ (some (.iri "http://x/b")) (some (.iri "a:b")) (hedge 0) (hedge 1) rfl rfl).mp
    (by decide)
  exact absurd hsame (by decide)

end Query

end QueryGraph
