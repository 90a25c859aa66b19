import QueryGraph.Proofs.Graph.Invariants
import QueryGraph.Proofs.Rdf.Key

/-!
# `Proofs.Graph.Identity` — one node for each term

Nodes are told apart by the keys of terms. Keys of different terms differ, as long as the languages and
datatypes of the literals can stand in a query; so a graph never draws two terms as one node.

## Contents
- `GraphModel.endIds`, `GraphModel.endNode?` — the ends of the edges, numbered from left to right.
- `endIds_build`, `endNode?_build` — what stands there is the key of a term, and a node that has it.
- `Query.sameNode_iff_of_isClean` — the main statement.
-/

namespace QueryGraph

namespace GraphModel

/-- The ids at the ends of the edges: for each edge that of its source, then that of its target. -/
def endIds (g : GraphModel) : List String := g.edges.flatMap fun e => [e.source, e.target]

/-- The node at an end of an edge. -/
def endNode? (g : GraphModel) (i : Nat) : Option Node := g.endIds[i]?.bind g.node?

end GraphModel

namespace Query

variable {q : Query} {a : Annotations}

/-- The ends of the edges have the keys of the endpoints. -/
theorem endIds_build (q : Query) (a : Annotations) :
    (q.build a).endIds = (endpoints q.scopedTriples).map Term.key := by
  have hends := congrArg (List.flatMap fun p => [p.1, p.2]) (map_ends_build q a)
  rw [List.flatMap_map, List.flatMap_map] at hends
  rw [endpoints, List.map_flatMap]
  exact hends

/-- At each end there is a node with the key of the endpoint. -/
theorem endNode?_build {i : Nat} {t : Term} (ht : (endpoints q.scopedTriples)[i]? = some t) :
    ∃ n, (q.build a).endNode? i = some n ∧ n.id = t.key := by
  obtain ⟨n, hn⟩ := exists_node?_key (a := a) (List.mem_of_getElem? ht)
  refine ⟨n, ?_, GraphModel.id_of_node? hn⟩
  rw [GraphModel.endNode?, endIds_build, List.getElem?_map, ht]
  exact hn

/-- Two ends have the same node exactly when the terms there have the same key. -/
theorem endNode?_id_eq_iff {i j : Nat} {s t : Term}
    (hs : (endpoints q.scopedTriples)[i]? = some s) (ht : (endpoints q.scopedTriples)[j]? = some t) :
    ∃ m n, (q.build a).endNode? i = some m ∧ (q.build a).endNode? j = some n ∧
      (m.id = n.id ↔ s.key = t.key) := by
  obtain ⟨m, hm, hmid⟩ := endNode?_build (a := a) hs
  obtain ⟨n, hn, hnid⟩ := endNode?_build (a := a) ht
  exact ⟨m, n, hm, hn, by rw [hmid, hnid]⟩

/-- **Different terms are never drawn as one node.** Clean terms have the same key only if they are the
same, so in the graph of a query whose subjects and objects are clean, the nodes at two ends have the
same id exactly when the same term stands there. -/
theorem sameNode_iff_of_isClean :
    (∀ s t : Term, s.IsClean → t.IsClean → (s.key = t.key ↔ s = t)) ∧
    ∀ (q : Query) (a : Annotations), (∀ t ∈ endpoints q.scopedTriples, t.IsClean) →
      ∀ (i j : Nat) (s t : Term), (endpoints q.scopedTriples)[i]? = some s →
        (endpoints q.scopedTriples)[j]? = some t →
        ∃ m n, (q.build a).endNode? i = some m ∧ (q.build a).endNode? j = some n ∧
          (m.id = n.id ↔ s = t) := by
  have hkey : ∀ s t : Term, s.IsClean → t.IsClean → (s.key = t.key ↔ s = t) :=
    fun s t hs ht => ⟨Term.eq_of_key_eq_of_isClean hs ht, fun h => congrArg Term.key h⟩
  refine ⟨hkey, ?_⟩
  intro q a hclean i j s t hs ht
  obtain ⟨m, n, hm, hn, hid⟩ := endNode?_id_eq_iff (a := a) hs ht
  refine ⟨m, n, hm, hn, hid.trans ?_⟩
  exact hkey s t (hclean s (List.mem_of_getElem? hs)) (hclean t (List.mem_of_getElem? ht))

/-- A query for things with the plain value `a|b` and the value `a` in the language `b`. -/
def barQuery : Query := .ofPatterns [.basic
  [⟨.var "x", .term (.iri "p"), .literal ⟨"a|b", none, none⟩⟩,
    ⟨.var "x", .term (.iri "p"), .literal ⟨"a", some "b", none⟩⟩]]

theorem isClean_barQuery : ∀ t ∈ endpoints barQuery.scopedTriples, t.IsClean := by
  show ∀ t ∈ [Term.var "x", .literal ⟨"a|b", none, none⟩, .var "x", .literal ⟨"a", some "b", none⟩],
    t.IsClean
  simp [Term.IsClean, Literal.IsClean, IsCleanTag]

/-- The two values have different keys and different nodes; the subjects are one node. -/
theorem sameNode_barQuery :
    (Term.literal ⟨"a|b", none, none⟩).key ≠ (Term.literal ⟨"a", some "b", none⟩).key ∧
    (∃ m n, (barQuery.build .standard).endNode? 1 = some m ∧
      (barQuery.build .standard).endNode? 3 = some n ∧ m.id ≠ n.id) ∧
    ∃ m n, (barQuery.build .standard).endNode? 0 = some m ∧
      (barQuery.build .standard).endNode? 2 = some n ∧ m.id = n.id := by
  obtain ⟨hkey, hnode⟩ := sameNode_iff_of_isClean
  have hne : Term.literal ⟨"a|b", none, none⟩ ≠ .literal ⟨"a", some "b", none⟩ := by decide
  have hclean := isClean_barQuery
  refine ⟨?_, ?_, ?_⟩
  · rw [Ne, hkey _ _ (hclean _ (List.mem_of_getElem? (i := 1) rfl))
      (hclean _ (List.mem_of_getElem? (i := 3) rfl))]
    exact hne
  · obtain ⟨m, n, hm, hn, hid⟩ := hnode barQuery .standard hclean 1 3 _ _ rfl rfl
    exact ⟨m, n, hm, hn, fun h => hne (hid.mp h)⟩
  · obtain ⟨m, n, hm, hn, hid⟩ := hnode barQuery .standard hclean 0 2 _ _ rfl rfl
    exact ⟨m, n, hm, hn, hid.mpr rfl⟩

end Query

end QueryGraph
