import Mathlib.Data.List.Nodup
import QueryGraph.Proofs.Graph.Roles

/-!
# `Proofs.Graph.Order` — a graph does not depend on the order of its triples

Nodes come in the order in which their terms are met, edges carry the numbers of their triples, and the
type edges overwrite categories as they go. Yet what is drawn is the same for every order of the triples:
an edge depends on its own triple alone, apart from its number; and what a node says, apart from its
label, depends on its id, on the pen and on which type triples there are, not on the term that was met
first.

The label is that of the first term with the id. Two terms with the same key may have different labels,
and then the one that is met first is shown (`not_perm_nodes_datatypeFirst`). So the label is left out where
nothing is known about keys; a node whose key belongs to terms of one label is the same altogether, and so
is the list of all nodes where keys tell the terms of a query apart.

## Contents
- `Node.withoutLabel`, `Edge.withoutId` — what is compared.
- `GraphModel.IsNumbered`, `isNumbered_build` — an edge id ends in the place of the edge.
- `Query.map_withoutId_build` — an edge depends on its triple.
- `Query.exists_twin` — a node has a twin in any graph of the same triples.
- `Query.HasOneLabel`, `Query.KeysTellApart` — when a node is its own twin.
- `GraphModel.Reorders`, `Query.build_reorders_of_perm` — the main statement.
- `Query.not_perm_nodes_datatypeFirst` — two terms with one key.
-/

namespace QueryGraph

/-! ## What is compared -/

/-- What a node says, apart from its label. -/
def Node.withoutLabel (n : Node) : String × NodeKind × NodeCategory × Bool :=
  (n.id, n.kind, n.category, n.isSelected)

/-- What an edge says, apart from its id. -/
def Edge.withoutId (e : Edge) :
    String × String × String × EdgeCategory × EdgeEffect × Bool × List BranchRef × Option String :=
  (e.source, e.target, e.label, e.category, e.effect, e.optional, e.branches, e.graph)

theorem Node.eq_of_withoutLabel_eq {n m : Node} (h : n.withoutLabel = m.withoutLabel)
    (hlabel : n.label = m.label) : n = m := by
  cases n
  cases m
  simp_all [withoutLabel]

/-- The id of an edge consists of what the edge says and of its place. -/
def GraphModel.IsNumbered (g : GraphModel) : Prop :=
  ∀ (i : Nat) (e : Edge), g.edges[i]? = some e → e.id = edgeId e.source e.label e.target i

/-- **A graph is another one in a different order.** -/
structure GraphModel.Reorders (g h : GraphModel) : Prop where
  /-- The prefixes are the same. -/
  prefixes : g.prefixes = h.prefixes
  /-- There are as many triples. -/
  tripleCount : g.tripleCount = h.tripleCount
  /-- The nodes are the same, each with its kind, its category and whether it is selected. -/
  nodes : (g.nodes.map Node.withoutLabel).Perm (h.nodes.map Node.withoutLabel)
  /-- The edges are the same, each as often. -/
  edges : (g.edges.map Edge.withoutId).Perm (h.edges.map Edge.withoutId)
  /-- The ids of the edges differ in nothing but the places at their ends. -/
  numbered : g.IsNumbered ∧ h.IsNumbered

namespace Query

variable {q q' : Query} {a : Annotations}

/-! ## Edges -/

theorem isNumbered_build (q : Query) (a : Annotations) : (q.build a).IsNumbered := by
  intro i e he
  rw [edges_build, List.getElem?_mapIdx, Option.map_eq_some_iff] at he
  obtain ⟨s, -, rfl⟩ := he
  rfl

/-- **What an edge says** depends on its triple and on the pen, whatever number it has. -/
theorem map_withoutId_build (q : Query) (a : Annotations) :
    (q.build a).edges.map Edge.withoutId =
      q.scopedTriples.map fun s => (Drawing.edge (q.pen a) 0 s).withoutId :=
  q.map_edges_build a fun _ _ => rfl

/-! ## Nodes -/

/-- No node occurs twice. -/
theorem nodup_nodes_build (q : Query) (a : Annotations) : (q.build a).nodes.Nodup := by
  have hids := q.nodup_nodeIds_build a
  rw [List.Nodup, List.pairwise_map] at hids
  exact hids.imp fun hne heq => hne (congrArg Node.id heq)

/-- A node is selected when its id is the key of a returned variable. -/
theorem isSelected_of_mem_nodes {n : Node} (h : n ∈ (q.build a).nodes) :
    n.isSelected = q.selectedKeys.contains n.id := by
  obtain ⟨t, -, hn⟩ := find?_of_mem_nodes h
  rw [hn]
  rfl

/-- The labels are those of the first endpoints by key. -/
theorem map_label_build (q : Query) (a : Annotations) :
    (q.build a).nodes.map Node.label =
      (firstBy Term.key (endpoints q.scopedTriples)).map fun t => t.label q.prefixes := by
  rw [nodes_build, List.map_map]
  rfl

/-- The label of a node is that of an endpoint with its id. -/
theorem exists_label_of_mem_nodes {n : Node} (h : n ∈ (q.build a).nodes) :
    ∃ t ∈ endpoints q.scopedTriples, t.key = n.id ∧ n.label = t.label q.prefixes := by
  obtain ⟨t, ht, hn⟩ := find?_of_mem_nodes h
  have hkey : t.key = n.id := by simpa using List.find?_some ht
  refine ⟨t, List.mem_of_find?_eq_some ht, hkey, ?_⟩
  rw [hn]
  rfl

/-- Queries that agree in these sections return the same variables. -/
theorem selectedKeys_congr (hqueryType : q'.queryType = q.queryType)
    (hprojection : q'.projection = q.projection) : q'.selectedKeys = q.selectedKeys := by
  unfold selectedKeys selectedNames
  rw [hqueryType, hprojection]

theorem mem_endpoints_congr (h : ∀ s, s ∈ q'.scopedTriples ↔ s ∈ q.scopedTriples) (t : Term) :
    t ∈ endpoints q'.scopedTriples ↔ t ∈ endpoints q.scopedTriples := by
  simp only [mem_endpoints, h]

/-- **A node has a twin in any graph of the same triples**, as long as the same variables are selected. -/
theorem exists_twin (htriples : ∀ s, s ∈ q'.scopedTriples ↔ s ∈ q.scopedTriples)
    (hselected : q'.selectedKeys = q.selectedKeys) {n : Node} (hn : n ∈ (q.build a).nodes) :
    ∃ m ∈ (q'.build a).nodes, m.withoutLabel = n.withoutLabel := by
  -- Some term with the key of the node is in both lists; the twin is the node of its key there, though
  -- another term with that key may have been met first.
  obtain ⟨t, ht, hkey⟩ := exists_endpoint_of_mem_nodes hn
  rw [← mem_endpoints_congr htriples] at ht
  obtain ⟨m, hm, -, hid, hkind⟩ := exists_node_of_endpoint (a := a) ht
  have hid' : m.id = n.id := hid.trans hkey
  have hkind' : m.kind = n.kind := hkind.trans (kind_of_mem_nodes hn hkey).symm
  have hcategory : m.category = n.category := by
    have hsame : ∀ t, t ∈ q'.triples ↔ t ∈ q.triples := by
      intro t
      simp only [triples, List.mem_map, htriples]
    -- A role is a matter of the set of triples, so it is one of both nodes.
    have hrole := (category_eq_iff_hasRole hn n.category).mp rfl
    rw [← hasRole_congr hsame, ← hkind', ← hid'] at hrole
    exact (category_eq_iff_hasRole hm n.category).mpr hrole
  have hchosen : m.isSelected = n.isSelected := by
    rw [isSelected_of_mem_nodes hm, isSelected_of_mem_nodes hn, hid', hselected]
  refine ⟨m, hm, ?_⟩
  unfold Node.withoutLabel
  rw [hid', hkind', hcategory, hchosen]

/-- No two nodes of a graph say the same, as they have different ids. -/
theorem nodup_withoutLabel_build (q : Query) (a : Annotations) :
    ((q.build a).nodes.map Node.withoutLabel).Nodup := by
  have hids := q.nodup_nodeIds_build a
  rw [List.Nodup, List.pairwise_map] at hids ⊢
  exact hids.imp fun hne heq => hne (congrArg Prod.fst heq)

/-- Graphs of the same triples have the same nodes, apart from labels. -/
theorem perm_withoutLabel_build (htriples : ∀ s, s ∈ q'.scopedTriples ↔ s ∈ q.scopedTriples)
    (hselected : q'.selectedKeys = q.selectedKeys) :
    ((q'.build a).nodes.map Node.withoutLabel).Perm ((q.build a).nodes.map Node.withoutLabel) := by
  -- Neither list says anything twice, so the same members are enough.
  rw [List.perm_ext_iff_of_nodup (nodup_withoutLabel_build q' a) (nodup_withoutLabel_build q a)]
  intro v
  simp only [List.mem_map]
  constructor
  · rintro ⟨n, hn, rfl⟩
    exact exists_twin (fun s => (htriples s).symm) hselected.symm hn
  · rintro ⟨n, hn, rfl⟩
    exact exists_twin htriples hselected hn

/-- The terms with the given key have one label. -/
def HasOneLabel (q : Query) (key : String) : Prop :=
  ∀ s ∈ endpoints q.scopedTriples, ∀ t ∈ endpoints q.scopedTriples, s.key = key → t.key = key →
    s.label q.prefixes = t.label q.prefixes

/-- The terms of a query are told apart by their keys. -/
def KeysTellApart (q : Query) : Prop :=
  ∀ s ∈ endpoints q.scopedTriples, ∀ t ∈ endpoints q.scopedTriples, s.key = t.key → s = t

/-- Clean terms are told apart by their keys. -/
theorem KeysTellApart.of_isClean (h : ∀ t ∈ endpoints q.scopedTriples, t.IsClean) :
    q.KeysTellApart := by
  intro s hs t ht hkey
  exact Term.eq_of_key_eq_of_isClean (h s hs) (h t ht) hkey

theorem KeysTellApart.hasOneLabel (h : q.KeysTellApart) (key : String) : q.HasOneLabel key := by
  intro s hs t ht hskey htkey
  rw [h s hs t ht (hskey.trans htkey.symm)]

/-- **Nodes with the same id are the same**, if the terms with this key have one label. -/
theorem eq_of_hasOneLabel (htriples : ∀ s, s ∈ q'.scopedTriples ↔ s ∈ q.scopedTriples)
    (hselected : q'.selectedKeys = q.selectedKeys) (hprefixes : q'.prefixes = q.prefixes) {m n : Node}
    (hm : m ∈ (q'.build a).nodes) (hn : n ∈ (q.build a).nodes) (hid : m.id = n.id)
    (hone : q.HasOneLabel n.id) : m = n := by
  obtain ⟨twin, htwin, hsame⟩ := exists_twin htriples hselected hn
  have hself : m = twin := by
    apply List.inj_on_of_nodup_map (q'.nodup_nodeIds_build a) hm htwin
    exact hid.trans (congrArg Prod.fst hsame).symm
  obtain ⟨s, hs, hskey, hslabel⟩ := exists_label_of_mem_nodes hm
  obtain ⟨t, ht, htkey, htlabel⟩ := exists_label_of_mem_nodes hn
  have hlabel : m.label = n.label := by
    rw [hslabel, htlabel, hprefixes]
    exact hone s ((mem_endpoints_congr htriples s).mp hs) t ht (hskey.trans hid) htkey
  rw [← hself] at hsame
  exact Node.eq_of_withoutLabel_eq hsame hlabel

/-- If keys tell the terms apart, a node is its own twin. -/
theorem mem_nodes_of_keysTellApart (htriples : ∀ s, s ∈ q'.scopedTriples ↔ s ∈ q.scopedTriples)
    (hselected : q'.selectedKeys = q.selectedKeys) (hprefixes : q'.prefixes = q.prefixes)
    (hkeys : q.KeysTellApart) {n : Node} (hn : n ∈ (q.build a).nodes) : n ∈ (q'.build a).nodes := by
  obtain ⟨m, hm, htwin⟩ := exists_twin htriples hselected hn
  have hid : m.id = n.id := congrArg Prod.fst htwin
  rw [← eq_of_hasOneLabel htriples hselected hprefixes hm hn hid (hkeys.hasOneLabel n.id)]
  exact hm

/-- Graphs of the same triples have the same nodes, if keys tell the terms apart. -/
theorem perm_nodes_build (htriples : ∀ s, s ∈ q'.scopedTriples ↔ s ∈ q.scopedTriples)
    (hselected : q'.selectedKeys = q.selectedKeys) (hprefixes : q'.prefixes = q.prefixes)
    (hkeys : q.KeysTellApart) : (q'.build a).nodes.Perm (q.build a).nodes := by
  have hkeys' : q'.KeysTellApart := by
    intro s hs t ht
    exact hkeys s ((mem_endpoints_congr htriples s).mp hs) t ((mem_endpoints_congr htriples t).mp ht)
  rw [List.perm_ext_iff_of_nodup (nodup_nodes_build q' a) (nodup_nodes_build q a)]
  intro n
  constructor
  · intro hn
    exact mem_nodes_of_keysTellApart (fun s => (htriples s).symm) hselected.symm hprefixes.symm hkeys' hn
  · intro hn
    exact mem_nodes_of_keysTellApart htriples hselected hprefixes hkeys hn

/-! ## Both together -/

/-- Queries of one type are shown under one name, if they give the type or are of one kind. -/
theorem typeName_congr (hqueryType : q'.queryType = q.queryType)
    (h : q'.kind = q.kind ∨ ∃ name, q.queryType = some name ∧ name ≠ "") : q'.typeName = q.typeName := by
  unfold typeName
  rw [hqueryType]
  rcases h with hkind | ⟨name, hname, hne⟩
  · rw [hkind]
  · rw [hname]
    simp [hne]

/-- **The drawn graph does not depend on the order of the triples.** The edges say the same but for the
numbers in their ids. The nodes say the same but for their labels; a node is the same with its label if
the terms with its key have one, and all are the same where keys tell terms apart. The query is shown under
the same name if it gives its type, or if the kinds are the same. -/
theorem build_reorders_of_perm (hqueryType : q'.queryType = q.queryType)
    (hprefixes : q'.prefixes = q.prefixes) (hprojection : q'.projection = q.projection)
    (htriples : q'.scopedTriples.Perm q.scopedTriples) (a : Annotations) :
    (q'.build a).Reorders (q.build a) ∧
    (q'.kind = q.kind ∨ (∃ name, q.queryType = some name ∧ name ≠ "") →
      (q'.build a).queryType = (q.build a).queryType) ∧
    (∀ m ∈ (q'.build a).nodes, ∀ n ∈ (q.build a).nodes, m.id = n.id → q.HasOneLabel n.id → m = n) ∧
    (q.KeysTellApart → (q'.build a).nodes.Perm (q.build a).nodes) := by
  have hselected := selectedKeys_congr hqueryType hprojection
  have hmem : ∀ s, s ∈ q'.scopedTriples ↔ s ∈ q.scopedTriples := fun s => htriples.mem_iff
  refine ⟨?_, typeName_congr hqueryType, ?_, perm_nodes_build hmem hselected hprefixes⟩
  · constructor
    case prefixes => exact hprefixes
    case tripleCount => exact htriples.length_eq
    case nodes => exact perm_withoutLabel_build hmem hselected
    case edges =>
      have hpen : q'.pen a = q.pen a := by
        unfold pen
        rw [hprefixes, hselected]
      rw [map_withoutId_build, map_withoutId_build, hpen]
      exact htriples.map _
    case numbered => exact ⟨isNumbered_build q' a, isNumbered_build q a⟩
  · intro m hm n hn hid hone
    exact eq_of_hasOneLabel hmem hselected hprefixes hm hn hid hone

/-- A SELECT of one variable. -/
def selectX (ps : List Pattern) : Query :=
  ⟨some "SELECT", none, .empty, some (.items [.var "x"]), some ps⟩

/-- An IRI is used as an individual first and as a class afterwards. -/
def individualFirst : Query := selectX [.union [
  [.basic [typeTriple (.iri "c") (.iri "d"), typeTriple (.var "x") (.iri "c")]],
  [.graph (.iri "g") [.basic [typeTriple (.blank "b") (.iri "c")]]]]]

/-- It is used as a class first. -/
def classFirst : Query := selectX [.union [
  [.group [.basic [typeTriple (.var "x") (.iri "c")]], .basic [typeTriple (.iri "c") (.iri "d")]],
  [.graph (.iri "g") [.basic [typeTriple (.blank "b") (.iri "c")]]]]]

/-- Either order of use gives the same graph. -/
theorem reorders_classFirst :
    (classFirst.build .standard).Reorders (individualFirst.build .standard) ∧
    (classFirst.build .standard).nodes.Perm (individualFirst.build .standard).nodes := by
  have htriples : classFirst.scopedTriples.Perm individualFirst.scopedTriples := by
    show List.Perm [_, _, _] [_, _, _]
    exact .swap _ _ _
  have hclean : ∀ t ∈ endpoints individualFirst.scopedTriples, t.IsClean := by
    show ∀ t ∈ [Term.iri "c", .iri "d", .var "x", .iri "c", .blank "b", .iri "c"], t.IsClean
    simp [Term.IsClean]
  have hqueryType : classFirst.queryType = individualFirst.queryType := rfl
  obtain ⟨hreorders, -, -, hnodes⟩ := build_reorders_of_perm hqueryType rfl rfl htriples .standard
  exact ⟨hreorders, hnodes (.of_isClean hclean)⟩

/-- A query for things with two values. -/
def valuesQuery (l m : Literal) : Query := .ofPatterns [.basic
  [⟨.var "x", .term (.iri "p"), .literal l⟩, ⟨.var "x", .term (.iri "p"), .literal m⟩]]

/-- The value `a` with the datatype `b|c`, then the value `a|` in the language `b` with the datatype `c`.
Both have the key `lit:a||b|c`. -/
def datatypeFirst : Query := valuesQuery ⟨"a", none, some "b|c"⟩ ⟨"a|", some "b", some "c"⟩

/-- The same two triples in the other order. -/
def languageFirst : Query := valuesQuery ⟨"a|", some "b", some "c"⟩ ⟨"a", none, some "b|c"⟩

/-- **The order shows where terms share a key**: their node has the label of the one that comes first. And a
query that gives no type is shown under its kind, which is no matter of order. -/
theorem not_perm_nodes_datatypeFirst :
    (languageFirst.queryType = datatypeFirst.queryType ∧ languageFirst.kind = datatypeFirst.kind ∧
      languageFirst.prefixes = datatypeFirst.prefixes ∧
      languageFirst.projection = datatypeFirst.projection ∧
      languageFirst.scopedTriples.Perm datatypeFirst.scopedTriples) ∧
    ¬(languageFirst.build .standard).nodes.Perm (datatypeFirst.build .standard).nodes ∧
    ({ datatypeFirst with kind := some "query" }.build .standard).queryType ≠
      (datatypeFirst.build .standard).queryType := by
  refine ⟨⟨rfl, rfl, rfl, rfl, .swap _ _ _⟩, ?_, by decide⟩
  intro hnodes
  have hlabels := hnodes.map Node.label
  have hlanguage : (languageFirst.build .standard).nodes.map Node.label = ["?x", "\"a|\"@b"] := by
    rw [map_label_build]
    rfl
  have hdatatype : (datatypeFirst.build .standard).nodes.map Node.label = ["?x", "\"a\"^^b|c"] := by
    rw [map_label_build]
    rfl
  rw [hlanguage, hdatatype] at hlabels
  exact absurd hlabels (by decide)

end Query

end QueryGraph
