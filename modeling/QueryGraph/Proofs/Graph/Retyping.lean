import Mathlib.Data.List.Forall2
import QueryGraph.Proofs.Graph.Drawing
import QueryGraph.Proofs.Graph.Operations

/-!
# `Proofs.Graph.Retyping` — type edges that tell nothing new

What type edges make of a node depends on which ends they have, and on nothing else (`Node.typed`). So
edges that have been taken into account tell nothing new a second time, in whatever order they come and
however often, and neither do others that join the same nodes. This holds for any table, whatever
categories its nodes have been given, and whether or not there are nodes at the ends of the edges.

## Contents
- `CoveredBy` — every type edge among some edges has the ends of one among others.
- `typed_congr`, `typed_typed` — edges with the same members, and edges that are covered.
- `Node.Retyped`, `retyped_typed` — a node after the type edges; what can have happened to it.
- `toList_applyTypes_of_coveredBy`, `toList_applyTypes_build` — a table, and a graph that is built.
- `applyTypes_settles` — the main statement.
-/

namespace QueryGraph

/-- Every type edge among some edges has the ends of one among others. -/
def CoveredBy (fs es : List Edge) : Prop :=
  ∀ f ∈ fs, f.category = .rdfType →
    ∃ e ∈ es, e.category = .rdfType ∧ e.source = f.source ∧ e.target = f.target

theorem coveredBy_of_subset {fs es : List Edge} (h : ∀ f ∈ fs, f ∈ es) : CoveredBy fs es :=
  fun f hf hcategory => ⟨f, h f hf, hcategory, rfl, rfl⟩

theorem CoveredBy.leadsTo {fs es : List Edge} (h : CoveredBy fs es) {id : String}
    (hid : LeadsTo fs id) : LeadsTo es id := by
  obtain ⟨f, hf, hcategory, rfl⟩ := hid
  obtain ⟨e, he, hcategory', -, htarget⟩ := h f hf hcategory
  exact ⟨e, he, hcategory', htarget⟩

theorem CoveredBy.comesFrom {fs es : List Edge} (h : CoveredBy fs es) {id : String}
    (hid : ComesFrom fs id) : ComesFrom es id := by
  obtain ⟨f, hf, hcategory, rfl⟩ := hid
  obtain ⟨e, he, hcategory', hsource, -⟩ := h f hf hcategory
  exact ⟨e, he, hcategory', hsource⟩

namespace Node

/-! ## Nodes -/

/-- The ends of the type edges are all that counts. -/
theorem typed_congr {es fs : List Edge} (n : Node) (hleads : LeadsTo es n.id ↔ LeadsTo fs n.id)
    (hcomes : ComesFrom es n.id ↔ ComesFrom fs n.id) : n.typed es = n.typed fs := by
  unfold typed typedCategory
  simp only [hleads, hcomes]

/-- **Edges that cover each other** make the same of a node. -/
theorem typed_eq_of_coveredBy {es fs : List Edge} (h : CoveredBy es fs) (h' : CoveredBy fs es)
    (n : Node) : n.typed es = n.typed fs :=
  n.typed_congr ⟨h.leadsTo, h'.leadsTo⟩ ⟨h.comesFrom, h'.comesFrom⟩

/-- **Edges that are covered** by those taken into account change nothing more. -/
theorem typed_typed {es fs : List Edge} (h : CoveredBy fs es) (n : Node) :
    (n.typed es).typed fs = n.typed es := by
  rw [← typed_append]
  apply typed_congr
  · rw [leadsTo_append]
    exact or_iff_left_of_imp h.leadsTo
  · rw [comesFrom_append]
    exact or_iff_left_of_imp h.comesFrom

/-- **A node after some type edges**: nothing but its category may have changed, a class is still one,
and an individual is one or has become a class. -/
structure Retyped (n m : Node) : Prop where
  rest : m = { n with category := m.category }
  ofClass : n.category = .ontologyClass → m.category = .ontologyClass
  ofIndividual : n.category = .individual → m.category = .individual ∨ m.category = .ontologyClass

theorem retyped_typed (es : List Edge) (n : Node) : n.Retyped (n.typed es) where
  rest := rfl
  ofClass := by
    intro hclass
    show n.typedCategory es = _
    unfold typedCategory
    rw [hclass]
    simp
  ofIndividual := by
    intro hindividual
    show n.typedCategory es = _ ∨ n.typedCategory es = _
    unfold typedCategory
    rw [hindividual]
    split
    · exact Or.inr rfl
    · exact Or.inl (by simp)

end Node

/-! ## Tables -/

namespace NodeTable

variable {t : NodeTable} {es fs : List Edge}

/-- Edges that are covered by those taken into account change nothing more in a table. -/
theorem toList_applyTypes_of_coveredBy (ht : t.Indexed) (h : CoveredBy fs es) {u : NodeTable}
    (hu : u.Indexed) (hsame : u.toList = (t.applyTypes es).toList) :
    (u.applyTypes fs).toList = (t.applyTypes es).toList := by
  rw [hu.toList_applyTypes, hsame, ht.toList_applyTypes, List.map_map]
  exact List.map_congr_left fun n _ => Node.typed_typed h n

/-- The edges of a built graph, or some of them in any order, change nothing in its nodes. -/
theorem toList_applyTypes_build (q : Query) (a : Annotations) (h : ∀ f ∈ fs, f ∈ (q.build a).edges) :
    ((ofNodes (q.build a).nodes).applyTypes fs).toList = (q.build a).nodes := by
  have hdrawn : (q.drawn a).table.Indexed := by
    rw [Query.drawn, Drawing.table_foldl_draw, Drawing.table_start]
    exact indexed_empty.foldl_insert _
  have hnodes : (q.build a).nodes = ((q.drawn a).table.applyTypes (q.build a).edges).toList := by
    rw [q.build_eq a]
  rw [hnodes]
  exact toList_applyTypes_of_coveredBy hdrawn (coveredBy_of_subset h) (indexed_ofNodes _)
    (hdrawn.applyTypes _).toList_ofNodes_toList

/-- **Type edges settle a table.** Covered edges tell nothing new afterwards, be it in the table itself or
in one made anew from its nodes; neither the order of the edges nor how often they come makes a
difference; and they change the categories of nodes only, a class or an individual never for something
less. In particular nothing changes when edges of a built graph are taken into account again. -/
theorem applyTypes_settles (ht : t.Reachable) (h : CoveredBy fs es) :
    ((t.applyTypes es).applyTypes fs).toList = (t.applyTypes es).toList ∧
    ((ofNodes (t.applyTypes es).toList).applyTypes fs).toList = (t.applyTypes es).toList ∧
    (∀ es', (∀ e, e ∈ es' ↔ e ∈ es) → (t.applyTypes es').toList = (t.applyTypes es).toList) ∧
    (t.applyTypes es).index = t.index ∧
    List.Forall₂ Node.Retyped t.toList (t.applyTypes es).toList ∧
    ∀ (q : Query) (a : Annotations) (gs : List Edge), (∀ g ∈ gs, g ∈ (q.build a).edges) →
      ((ofNodes (q.build a).nodes).applyTypes gs).toList = (q.build a).nodes := by
  have hindexed := ht.indexed
  have hafter := hindexed.applyTypes es
  refine ⟨?_, ?_, ?_, index_applyTypes t es, ?_, fun q a gs => toList_applyTypes_build q a⟩
  · exact toList_applyTypes_of_coveredBy hindexed h hafter rfl
  · exact toList_applyTypes_of_coveredBy hindexed h (indexed_ofNodes _) hafter.toList_ofNodes_toList
  · intro es' hes'
    rw [hindexed.toList_applyTypes, hindexed.toList_applyTypes]
    exact List.map_congr_left fun n _ => Node.typed_eq_of_coveredBy
      (coveredBy_of_subset fun e => (hes' e).mp) (coveredBy_of_subset fun e => (hes' e).mpr) n
  · rw [hindexed.toList_applyTypes, List.forall₂_map_right_iff, List.forall₂_same]
    exact fun n _ => Node.retyped_typed es n

/-- A node with an id for a label. -/
def bareNode (id : String) (kind : NodeKind) (category : NodeCategory) : Node :=
  ⟨id, id, kind, category, false⟩

/-- An edge that gives a class. -/
def typeEdge (source target : String) : Edge :=
  ⟨"", source, target, "", .rdfType, .unchanged, false, [], none⟩

/-- Nodes whose categories no term would give them, one of them listed twice. -/
def oddTable : NodeTable :=
  (ofNodes [bareNode "x" .var .literal, bareNode "c" .iri .individual, bareNode "x" .iri .unknown,
    bareNode "l" .literal .unknown]).setCategory "x" .unknown

/-- The variable is an individual, the IRI at both ends of an edge a class, the literal unknown still;
and so they are after more edges, with ends that are absent. -/
theorem applyTypes_settles_oddTable :
    oddTable.Reachable ∧
    CoveredBy [typeEdge "x" "nowhere", typeEdge "c" "c", typeEdge "x" "nowhere"]
      [typeEdge "c" "c", typeEdge "l" "x", typeEdge "x" "nowhere"] ∧
    ((oddTable.applyTypes [typeEdge "c" "c", typeEdge "l" "x", typeEdge "x" "nowhere"]).applyTypes
      [typeEdge "x" "nowhere", typeEdge "c" "c", typeEdge "x" "nowhere"]).toList =
      [bareNode "x" .var .individual, bareNode "c" .iri .ontologyClass,
        bareNode "l" .literal .unknown] := by
  have hreachable : oddTable.Reachable := (Reachable.empty.step (.ofNodes _ _)).step (.setCategory _ _ _)
  have hcovered : CoveredBy [typeEdge "x" "nowhere", typeEdge "c" "c", typeEdge "x" "nowhere"]
      [typeEdge "c" "c", typeEdge "l" "x", typeEdge "x" "nowhere"] :=
    coveredBy_of_subset (by decide)
  have hnodes : oddTable.toList = [bareNode "x" .var .unknown, bareNode "c" .iri .individual,
      bareNode "l" .literal .unknown] := by
    rw [oddTable, setCategory, (indexed_ofNodes _).toList_update, toList_ofNodes]
    rfl
  refine ⟨hreachable, hcovered, ?_⟩
  rw [(applyTypes_settles hreachable hcovered).1, hreachable.indexed.toList_applyTypes, hnodes]
  decide

end NodeTable

end QueryGraph
