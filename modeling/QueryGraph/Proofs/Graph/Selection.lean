import QueryGraph.Proofs.Graph.Order
import QueryGraph.Proofs.Graph.Pens

/-!
# `Proofs.Graph.Selection` — which nodes are selected

A variable that a query returns is marked in its graph. The marks come about in a roundabout way: names
of the projection are made into keys, terms are made into ids, and a node is marked if its id is among
the keys. No text in a term can lead this astray. The keys of variables start like no other keys, and
behind that they hold the name and nothing else; so a node is marked exactly if it is that of a variable
which the query returns.

Nothing else in a graph depends on what a query returns, apart from the name of its type.

## Contents
- `Query.Returns`, `Query.mem_selectedNames_iff` — the query returns a variable.
- `Node.ShowsVar`, `Query.showsVar_iff` — the node is that of a variable; its id tells.
- `Query.isSelected_iff` — the marked nodes.
- `GraphModel.SameButSelection`, `Query.withHead` — what is compared, and queries with another head.
- `Query.selection_of_build` — the main statement.
-/

namespace QueryGraph

/-- **The query returns a variable**: it is a SELECT with an explicit projection, and one of the items
there is the variable or gives a value its name. -/
def Query.Returns (q : Query) (name : String) : Prop :=
  q.queryType = some "SELECT" ∧
    ∃ items, q.projection = some (.items items) ∧ (.var name ∈ items ∨ .aliased name ∈ items)

/-- **The node is that of a variable**, by its kind, its id and its label. -/
structure Node.ShowsVar (n : Node) (name : String) : Prop where
  kind : n.kind = .var
  id : n.id = (Term.var name).key
  label : n.label = "?" ++ name

/-- A node without the mark of a selected one. -/
def Node.unselected (n : Node) : Node := { n with isSelected := false }

/-- **A graph is another one with other nodes selected**, of a query that may have another type. -/
structure GraphModel.SameButSelection (g h : GraphModel) : Prop where
  /-- The prefixes are the same. -/
  prefixes : g.prefixes = h.prefixes
  /-- The nodes are the same in the same order, but for the marks. -/
  nodes : g.nodes.map Node.unselected = h.nodes.map Node.unselected
  /-- The edges are the same in the same order. -/
  edges : g.edges = h.edges
  /-- There are as many triples. -/
  tripleCount : g.tripleCount = h.tripleCount

/-- An item returns a variable as it is, or a value under its name. -/
theorem SelectItem.name?_eq_some_iff {item : SelectItem} {name : String} :
    item.name? = some name ↔ item = .var name ∨ item = .aliased name := by
  cases item <;> simp [name?]

/-- Only an explicit projection returns variables by name. -/
theorem Projection.some_mem_names_iff {projection : Projection} {name : String} :
    some name ∈ projection.names ↔
      ∃ items, projection = .items items ∧ (.var name ∈ items ∨ .aliased name ∈ items) := by
  cases projection with
  | all => simp [names]
  | items items =>
      simp only [names, List.mem_map, SelectItem.name?_eq_some_iff, Projection.items.injEq,
        exists_eq_left']
      constructor
      · rintro ⟨item, hitem, rfl | rfl⟩
        · exact Or.inl hitem
        · exact Or.inr hitem
      · rintro (hvar | haliased)
        · exact ⟨_, hvar, Or.inl rfl⟩
        · exact ⟨_, haliased, Or.inr rfl⟩

namespace Query

variable {q : Query} {a : Annotations} {n : Node} {name : String}

/-! ## Returned variables -/

/-- The selected names are those of the returned variables. -/
theorem mem_selectedNames_iff : name ∈ q.selectedNames ↔ q.Returns name := by
  have hsome : ∀ names : List (Option String), name ∈ names.filterMap id ↔ some name ∈ names := by
    intro names
    simp [List.mem_filterMap]
  unfold selectedNames Returns
  by_cases hselect : q.queryType = some "SELECT"
  · rw [if_pos hselect, and_iff_right hselect, hsome]
    cases q.projection with
    | none => simp
    | some projection =>
        simp only [Option.some.injEq]
        exact Projection.some_mem_names_iff
  · rw [if_neg hselect]
    simp [hselect]

/-! ## Selected nodes -/

/-- **The id of a node tells** whether it is that of a variable, since no other term has such a key. -/
theorem showsVar_iff (h : n ∈ (q.build a).nodes) : n.ShowsVar name ↔ n.id = (Term.var name).key := by
  constructor
  · intro hshows
    exact hshows.id
  · intro hid
    obtain ⟨t, -, hkey, hlabel⟩ := exists_label_of_mem_nodes h
    have hvar : Term.var name = t := by
      apply Term.eq_of_key_eq
      · intro l
        exact Term.noConfusion
      · rw [hkey, hid]
    subst hvar
    exact ⟨kind_of_mem_nodes h hkey, hid, hlabel⟩

/-- **A node is selected exactly if it is that of a returned variable.** -/
theorem isSelected_iff (h : n ∈ (q.build a).nodes) :
    n.isSelected = true ↔ ∃ name, q.Returns name ∧ n.ShowsVar name := by
  rw [isSelected_of_mem_nodes h, List.contains_iff_mem, mem_selectedKeys]
  apply exists_congr
  intro name
  rw [mem_selectedNames_iff, showsVar_iff h]
  exact and_congr_right fun _ => eq_comm

/-! ## Other heads -/

/-- A query with another head: another type, another kind, another projection. -/
def withHead (q : Query) (queryType kind : Option String) (projection : Option Projection) : Query :=
  { q with queryType := queryType, kind := kind, projection := projection }

variable (q : Query) (a : Annotations) (queryType kind : Option String) (projection : Option Projection)

theorem scopedTriples_withHead :
    (q.withHead queryType kind projection).scopedTriples = q.scopedTriples := rfl

/-- **Another head** changes the name of the type and the marks only. -/
theorem sameButSelection_withHead :
    ((q.withHead queryType kind projection).build a).SameButSelection (q.build a) where
  prefixes := rfl
  nodes := by
    apply map_nodes_build_eq (q.scopedTriples_withHead queryType kind projection)
    intro t es
    rfl
  edges := by
    apply edges_build_eq (q.scopedTriples_withHead queryType kind projection)
    intro i s
    rfl
  tripleCount := rfl

/-- **What a query returns shows in its graph as marks on variables, and nowhere else.** A node is
selected exactly if the query is a SELECT with an explicit projection that has the variable of the node
in it; and queries that differ in their heads have graphs that differ in the marks and in the name of the
type. -/
theorem selection_of_build (q : Query) (a : Annotations) :
    (∀ n ∈ (q.build a).nodes, n.isSelected = true ↔ ∃ name, q.Returns name ∧ n.ShowsVar name) ∧
    ∀ queryType kind projection,
      ((q.withHead queryType kind projection).build a).SameButSelection (q.build a) := by
  refine ⟨?_, q.sameButSelection_withHead a⟩
  intro n hn
  exact isSelected_iff hn

/-- A SELECT of the variable `x`, by an alias. In its triples stand this variable, another one, and terms
that look like the first: an IRI with the text of its key, others with the text of its label. -/
def lookalikes : Query where
  queryType := some "SELECT"
  kind := some "query"
  prefixes := .empty
  projection := some (.items [.other, .aliased "x"])
  patterns := some [.basic [⟨.iri "var:?x", .term (.var "x"), .var "y"⟩,
    ⟨.blank "?x", .term (.iri "p"), .literal ⟨"?x", none, none⟩⟩, ⟨.unknown, .term (.iri "p"), .var "x"⟩]]

/-- One node is selected, and none of the same graph if the query is an ASK. -/
theorem selection_lookalikes :
    (∃ n ∈ (lookalikes.build .standard).nodes, n.id = "var:?x" ∧ n.isSelected = true) ∧
    (∀ n ∈ (lookalikes.build .standard).nodes, n.isSelected = true → n.id = "var:?x") ∧
    (∀ n ∈ ((lookalikes.withHead (some "ASK") none none).build .standard).nodes,
      ¬n.isSelected = true) ∧
    ((lookalikes.withHead (some "ASK") none none).build .standard).SameButSelection
      (lookalikes.build .standard) := by
  obtain ⟨hselected, hhead⟩ := selection_of_build lookalikes .standard
  obtain ⟨hasked, -⟩ := selection_of_build (lookalikes.withHead (some "ASK") none none) .standard
  refine ⟨?_, ?_, ?_, hhead _ _ _⟩
  · have hend : Term.var "x" ∈ endpoints lookalikes.scopedTriples := by
      show Term.var "x" ∈ [_, _, _, _, _, _]
      simp
    obtain ⟨n, hn, -, hid, -⟩ := exists_node_of_endpoint (a := .standard) hend
    have hreturned : lookalikes.Returns "x" := ⟨rfl, _, rfl, Or.inr (by simp)⟩
    exact ⟨n, hn, hid, (hselected n hn).mpr ⟨"x", hreturned, (showsVar_iff hn).mpr hid⟩⟩
  · intro n hn hmark
    obtain ⟨name, ⟨-, items, hitems, hname⟩, hshows⟩ := (hselected n hn).mp hmark
    obtain rfl : name = "x" := by
      cases hitems
      simpa using hname
    exact hshows.id
  · intro n hn hmark
    obtain ⟨name, ⟨hselect, -⟩, -⟩ := (hasked n hn).mp hmark
    exact absurd hselect (by decide)

end Query

end QueryGraph
