import QueryGraph.Proofs.Graph.Order
import QueryGraph.Proofs.Graph.Pens
import QueryGraph.Proofs.Rdf.LongestNamespace

/-!
# `Proofs.Graph.Display` — prefixes are for display

Prefixes shorten IRIs in the texts that are shown: labels of nodes and edges, names of graphs, and the ids
of edges, which have a label in them. What is drawn does not depend on them, because terms are told apart
by their keys, and keys hold IRIs in full.

The texts depend on the prefixes through the short forms of IRIs only. Where namespaces are distinct, the
order in which they are declared makes no difference to short forms, and so none to the texts.

## Contents
- `Term.label_congr`, `edgeLabel_congr`, `Drawing.edge_congr` — texts depend on short forms.
- `Edge.withoutTexts`, `GraphModel.SameButTexts` — what is compared.
- `Query.sameButTexts_withPrefixes`, `Query.build_withPrefixes_of_perm` — other prefixes, and the same
  prefixes in another order.
- `Query.build_withPrefixes` — the main statement.
-/

namespace QueryGraph

/-! ## Texts and short forms -/

section Texts

variable {p p' : Prefixes}

/-- A label depends on the short forms of IRIs. -/
theorem Term.label_congr (h : ∀ iri, p'.compact iri = p.compact iri) (t : Term) :
    t.label p' = t.label p := by
  cases t with
  | var name | blank name | unknown => rfl
  | iri i => exact h i
  | literal l => simp only [label, h]

/-- So does the label of an edge. -/
theorem edgeLabel_congr (h : ∀ iri, p'.compact iri = p.compact iri) (predicate : Predicate) :
    edgeLabel p' predicate = edgeLabel p predicate := by
  cases predicate with
  | path op ps => rfl
  | term t =>
      cases t with
      | iri i => exact h i
      | var name | blank name | literal l | unknown => rfl

/-- Pens whose prefixes give the same short forms draw the same node. -/
theorem Pen.node_congr (h : ∀ iri, p'.compact iri = p.compact iri) (selected : List String)
    (a : Annotations) (t : Term) : Pen.node ⟨p', selected, a⟩ t = Pen.node ⟨p, selected, a⟩ t := by
  simp only [Pen.node, NodeTable.newNode, t.label_congr h]

/-- They draw the same edge, too. -/
theorem Drawing.edge_congr (h : ∀ iri, p'.compact iri = p.compact iri) (selected : List String)
    (a : Annotations) (i : Nat) (s : ScopedTriple) :
    edge ⟨p', selected, a⟩ i s = edge ⟨p, selected, a⟩ i s := by
  have hlabel : Term.label p' = Term.label p := funext (Term.label_congr h)
  simp only [edge, edgeLabel_congr h, hlabel]

end Texts

/-! ## What is compared -/

/-- What an edge says, apart from the texts that are shown: of a graph around it, that there is one. -/
def Edge.withoutTexts (e : Edge) :
    String × String × EdgeCategory × EdgeEffect × Bool × List BranchRef × Bool :=
  (e.source, e.target, e.category, e.effect, e.optional, e.branches, e.graph.isSome)

/-- **A graph is another one with other texts.** -/
structure GraphModel.SameButTexts (g h : GraphModel) : Prop where
  /-- The query is shown under the same name. -/
  queryType : g.queryType = h.queryType
  /-- There are as many triples. -/
  tripleCount : g.tripleCount = h.tripleCount
  /-- The nodes are the same in the same order, each with its id, its kind, its category and whether it
  is selected. -/
  nodes : g.nodes.map Node.withoutLabel = h.nodes.map Node.withoutLabel
  /-- The edges are the same in the same order, each with its ends and all that is no text. -/
  edges : g.edges.map Edge.withoutTexts = h.edges.map Edge.withoutTexts
  /-- The ids of the edges differ in nothing but the labels in them. -/
  numbered : g.IsNumbered ∧ h.IsNumbered

namespace Query

/-- A query with other prefixes. -/
def withPrefixes (q : Query) (p : Prefixes) : Query := { q with prefixes := p }

variable (q : Query) (a : Annotations) {p p' : Prefixes}

/-- The triples stay. -/
theorem scopedTriples_withPrefixes (p p' : Prefixes) :
    (q.withPrefixes p').scopedTriples = (q.withPrefixes p).scopedTriples := rfl

/-- **Other prefixes** change texts only. -/
theorem sameButTexts_withPrefixes (p p' : Prefixes) :
    ((q.withPrefixes p').build a).SameButTexts ((q.withPrefixes p).build a) where
  queryType := rfl
  tripleCount := rfl
  nodes := by
    apply map_nodes_build_eq (q.scopedTriples_withPrefixes p p')
    intro t es
    rfl
  edges := by
    have hedges : ∀ p, ((q.withPrefixes p).build a).edges.map Edge.withoutTexts =
        q.scopedTriples.map fun s => (Drawing.edge (q.pen a) 0 s).withoutTexts := by
      intro p
      apply map_edges_build
      intro i s
      simp only [Edge.withoutTexts, Drawing.edge, Option.isSome_map]
      rfl
    rw [hedges, hedges]
  numbered := ⟨isNumbered_build _ a, isNumbered_build _ a⟩

/-- **The same prefixes in another order** change nothing but their own order, if namespaces are
distinct. -/
theorem build_withPrefixes_of_perm (hperm : p'.entries.Perm p.entries)
    (h : (p.entries.map Prod.snd).Nodup) :
    (q.withPrefixes p').build a = { (q.withPrefixes p).build a with prefixes := p' } := by
  have hcompact := Prefixes.compact_eq_of_perm hperm h
  apply GraphModel.ext
  case queryType => rfl
  case prefixes => rfl
  case nodes =>
    apply nodes_build_eq (q.scopedTriples_withPrefixes p p')
    intro t
    exact Pen.node_congr hcompact _ a t
  case edges =>
    apply edges_build_eq (q.scopedTriples_withPrefixes p p')
    intro i s
    exact Drawing.edge_congr hcompact _ a i s
  case tripleCount => rfl

/-- **Prefixes are for display.** Two queries that differ in their prefixes have graphs that differ in
nothing but texts; and not even there, if the prefixes are the same in another order and no two of them
have the same namespace. -/
theorem build_withPrefixes (q : Query) (p p' : Prefixes) (a : Annotations) :
    ((q.withPrefixes p').build a).SameButTexts ((q.withPrefixes p).build a) ∧
    (p'.entries.Perm p.entries → (p.entries.map Prod.snd).Nodup →
      (q.withPrefixes p').build a = { (q.withPrefixes p).build a with prefixes := p' }) := by
  refine ⟨q.sameButTexts_withPrefixes a p p', ?_⟩
  intro hperm h
  exact q.build_withPrefixes_of_perm a hperm h

/-- IRIs of two namespaces, one inside the other, as a subject, a predicate, a datatype and the name of a
graph. -/
def innerIris : Query := .ofPatterns [.graph (.iri "http://x/y/g") [.basic [⟨.iri "http://x/s",
  .term (.iri "http://x/y/p"), .literal ⟨"1", none, some "http://x/y/d"⟩⟩]]]

/-- The outer namespace is declared first. -/
def outerFirst : Prefixes := .ofList [("a", "http://x/"), ("b", "http://x/y/")]

/-- The inner namespace is declared first. -/
def innerFirst : Prefixes := .ofList [("b", "http://x/y/"), ("a", "http://x/")]

/-- The inner namespace is used in either order, and without any prefixes the edge still joins the same
nodes. -/
theorem build_withPrefixes_innerFirst :
    innerFirst.entries.Perm outerFirst.entries ∧ (outerFirst.entries.map Prod.snd).Nodup ∧
    (innerIris.withPrefixes innerFirst).build .standard =
      { (innerIris.withPrefixes outerFirst).build .standard with prefixes := innerFirst } ∧
    ((innerIris.withPrefixes innerFirst).build .standard).edges.map (fun e => (e.label, e.graph)) =
      [("b:p", some "b:g")] ∧
    ((innerIris.withPrefixes .empty).build .standard).edges.map Edge.withoutTexts =
      [("iri:http://x/s", "lit:1||http://x/y/d", .datatypeProperty, .unchanged, false, [], true)] := by
  have hperm : innerFirst.entries.Perm outerFirst.entries := by decide
  have hnodup : (outerFirst.entries.map Prod.snd).Nodup := by decide
  obtain ⟨-, hsame⟩ := build_withPrefixes innerIris outerFirst innerFirst .standard
  obtain ⟨hbare, -⟩ := build_withPrefixes innerIris innerFirst .empty .standard
  refine ⟨hperm, hnodup, hsame hperm hnodup, ?_, ?_⟩
  · rw [edges_build]
    decide
  · rw [hbare.edges, edges_build]
    rfl

end Query

end QueryGraph
