import Mathlib.Logic.Relation
import QueryGraph.Proofs.Graph.Operations

/-!
# `Proofs.Graph.Upkeep` — what a node table keeps, whatever is done to it

A node table holds its nodes in order, and a hash index that says where to find them. The index saves a
search through the nodes; it must never tell anything that the search would not tell. This holds for every
table that operations lead to, whatever ids its nodes have.

All operations but one work on the nodes that are there: they add nodes at the end and set categories. So
a node keeps its place, its id and all that is shown of it for as long as the table is not made anew.

## Contents
- `Indexed.index_eq_findIdx?`, `Indexed.get?_eq_find?`, `Indexed.toList_update_eq` — the index finds what a
  search finds.
- `get?_ofNodes`, `ids_ofNodes` — a table made anew holds the first node of each id.
- `Edit`, `step_iff` — the operations that do not make the table anew.
- `Node.withoutCategory`, `Keeps`, `Edit.keeps`, `keeps_of_edits` — they leave the nodes that are there in
  their places.
- `WellKept`, `Reachable.wellKept` — the main statement.
-/

namespace QueryGraph

/-- What a node says, apart from its category: its id, its label, its kind and whether it is selected. -/
def Node.withoutCategory (n : Node) : String × String × NodeKind × Bool :=
  (n.id, n.label, n.kind, n.isSelected)

theorem Node.eq_of_withoutCategory_eq {m n : Node} (h : m.withoutCategory = n.withoutCategory) :
    m = { n with category := m.category } := by
  obtain ⟨id, label, kind, category, isSelected⟩ := m
  simp only [withoutCategory, Prod.mk.injEq] at h
  obtain ⟨rfl, rfl, rfl, rfl⟩ := h
  rfl

namespace NodeTable

variable {t u : NodeTable}

/-! ## The index and the search -/

/-- **The index sends an id to the place where a search finds it.** -/
theorem Indexed.index_eq_findIdx? (h : t.Indexed) (id : String) :
    t.index[id]? = t.toList.findIdx? fun n => n.id = id := by
  have hplace : ∀ i, t.index[id]? = some i ↔ ∃ n, t.toList[i]? = some n ∧ n.id = id := by
    intro i
    rw [h id i, ids, List.getElem?_map, Option.map_eq_some_iff]
  cases hfound : t.toList.findIdx? fun n => n.id = id with
  | none =>
      rw [List.findIdx?_eq_none_iff] at hfound
      rw [Option.eq_none_iff_forall_ne_some]
      intro i hi
      obtain ⟨n, hn, hid⟩ := (hplace i).mp hi
      exact absurd hid (by simpa using hfound n (List.mem_of_getElem? hn))
  | some i =>
      obtain ⟨hlt, hid, -⟩ := List.findIdx?_eq_some_iff_getElem.mp hfound
      exact (hplace i).mpr ⟨t.toList[i], List.getElem?_eq_getElem hlt, by simpa using hid⟩

/-- The index never points behind the last node. -/
theorem Indexed.lt_size (h : t.Indexed) {id : String} {i : Nat} (hi : t.index[id]? = some i) :
    i < t.nodes.size := by
  rw [h.index_eq_findIdx?] at hi
  obtain ⟨hlt, -⟩ := List.findIdx?_eq_some_iff_getElem.mp hi
  simpa [toList] using hlt

/-- **Looking up is searching.** -/
theorem Indexed.get?_eq_find? (h : t.Indexed) (id : String) :
    t.get? id = t.toList.find? fun n => n.id = id := by
  rw [get?, h.index_eq_findIdx?, List.find?_eq_bind_findIdx?_getElem?]
  simp only [toList, Array.getElem?_toList]

/-- The node that is found under an id has this id. -/
theorem Indexed.id_of_get? (h : t.Indexed) {id : String} {n : Node} (hn : t.get? id = some n) :
    n.id = id := by
  rw [h.get?_eq_find?] at hn
  simpa using List.find?_some hn

/-- **Changing a node** changes the one that a search finds. -/
theorem Indexed.toList_update_eq (h : t.Indexed) (id : String) (f : Node → Node) :
    (t.update id f).toList =
      ((t.toList.findIdx? fun n => n.id = id).map fun i => t.toList.modify i f).getD t.toList := by
  rw [← h.index_eq_findIdx?, NodeTable.update]
  cases t.index[id]? with
  | none => rfl
  | some i => exact Array.toList_modify

/-! ## Tables made anew -/

theorem ids_ofNodes (ns : List Node) : (ofNodes ns).ids = (ns.map Node.id).eraseDups := by
  rw [ids, toList_ofNodes, map_firstBy]

/-- **A table made anew** holds, of several nodes with one id, the first. -/
theorem get?_ofNodes (ns : List Node) (id : String) :
    (ofNodes ns).get? id = ns.find? fun n => n.id = id := by
  rw [(indexed_ofNodes ns).get?_eq_find?, toList_ofNodes]
  exact find?_firstBy Node.id id ns

/-! ## Other operations -/

/-- **One operation** on the nodes that are there. -/
inductive Edit : NodeTable → NodeTable → Prop
  /-- A term is given a node, unless it has one. -/
  | ensure (t : NodeTable) (prefixes : Prefixes) (selected : List String) (term : Term) :
      Edit t (t.ensure prefixes selected term).1
  /-- A node is given another category. -/
  | setCategory (t : NodeTable) (id : String) (category : NodeCategory) :
      Edit t (t.setCategory id category)
  /-- Some type edges are taken into account. -/
  | applyTypes (t : NodeTable) (es : List Edge) : Edit t (t.applyTypes es)

/-- An operation works on the nodes that are there or makes the table anew. -/
theorem step_iff : Step t u ↔ Edit t u ∨ ∃ ns, u = ofNodes ns := by
  constructor
  · rintro (⟨prefixes, selected, term⟩ | ns | ⟨id, category⟩ | es)
    · exact Or.inl (.ensure t prefixes selected term)
    · exact Or.inr ⟨ns, rfl⟩
    · exact Or.inl (.setCategory t id category)
    · exact Or.inl (.applyTypes t es)
  · rintro ((⟨prefixes, selected, term⟩ | ⟨id, category⟩ | es) | ⟨ns, rfl⟩)
    · exact .ensure t prefixes selected term
    · exact .setCategory t id category
    · exact .applyTypes t es
    · exact .ofNodes t ns

/-- **A table keeps the nodes of another one** in their places, with all but their categories. -/
def Keeps (u t : NodeTable) : Prop :=
  t.toList.map Node.withoutCategory <+: u.toList.map Node.withoutCategory

theorem Keeps.trans {v : NodeTable} (h : v.Keeps u) (h' : u.Keeps t) : v.Keeps t :=
  List.IsPrefix.trans h' h

/-- A node stays at its place. -/
theorem Keeps.exists_getElem? (h : u.Keeps t) {i : Nat} {n : Node} (hn : t.toList[i]? = some n) :
    ∃ m, u.toList[i]? = some m ∧ m = { n with category := m.category } := by
  have hplace : (t.toList.map Node.withoutCategory)[i]? = some n.withoutCategory := by
    rw [List.getElem?_map, hn, Option.map_some]
  have hsame : (u.toList.map Node.withoutCategory)[i]? = some n.withoutCategory := by
    obtain ⟨hlt, -⟩ := List.getElem?_eq_some_iff.mp hplace
    obtain ⟨more, hmore⟩ := h
    rw [← hmore, List.getElem?_append_left hlt, hplace]
  rw [List.getElem?_map, Option.map_eq_some_iff] at hsame
  obtain ⟨m, hm, heq⟩ := hsame
  exact ⟨m, hm, Node.eq_of_withoutCategory_eq heq⟩

/-- A change of categories moves nothing. -/
theorem keeps_of_toList_eq_map {f : Node → Node}
    (hf : ∀ n : Node, (f n).withoutCategory = n.withoutCategory) (h : u.toList = t.toList.map f) :
    u.Keeps t := by
  have hsame : u.toList.map Node.withoutCategory = t.toList.map Node.withoutCategory := by
    rw [h, List.map_map]
    exact List.map_congr_left fun n _ => hf n
  exact ⟨[], by rw [List.append_nil, hsame]⟩

/-- **An operation on the nodes that are there** leaves them in their places. -/
theorem Edit.keeps (h : Edit t u) (ht : t.Indexed) : u.Keeps t := by
  cases h with
  | ensure prefixes selected term =>
      rw [ensure_fst, Keeps, toList_insert]
      split
      · exact List.prefix_rfl
      · rw [List.map_append]
        exact List.prefix_append _ _
  | setCategory id category =>
      refine keeps_of_toList_eq_map (fun n => ?_) (ht.toList_update id _)
      split <;> rfl
  | applyTypes es =>
      refine keeps_of_toList_eq_map (fun n => ?_) (ht.toList_applyTypes es)
      rfl

/-- **Any number of such operations** leave them there, too. -/
theorem keeps_of_edits (h : Relation.ReflTransGen Edit t u) (ht : t.Indexed) :
    u.Indexed ∧ u.Keeps t := by
  induction h with
  | refl => exact ⟨ht, List.prefix_rfl⟩
  | tail _ hedit ih =>
      obtain ⟨hindexed, hkeeps⟩ := ih
      exact ⟨(step_iff.mpr (Or.inl hedit)).indexed hindexed, (hedit.keeps hindexed).trans hkeeps⟩

/-! ## All operations -/

/-- **A table is well kept.** -/
structure WellKept (t : NodeTable) : Prop where
  /-- No id comes twice. -/
  nodup_ids : t.ids.Nodup
  /-- The index holds the ids of the nodes and no others. -/
  contains_iff : ∀ id, t.contains id = true ↔ id ∈ t.ids
  /-- It sends an id to the place where a search finds it. -/
  index : ∀ id : String, t.index[id]? = t.toList.findIdx? fun n => n.id = id
  /-- There is a node at this place. -/
  lt_size : ∀ (id : String) (i : Nat), t.index[id]? = some i → i < t.nodes.size
  /-- Looking up is searching. -/
  get? : ∀ id, t.get? id = t.toList.find? fun n => n.id = id
  /-- What is changed is what a search finds. -/
  update : ∀ id f, (t.update id f).toList =
    ((t.toList.findIdx? fun n => n.id = id).map fun i => t.toList.modify i f).getD t.toList
  /-- Making sure of a term whose key is there returns this key and changes nothing at all, whatever
  prefixes and selection come with it. -/
  ensure : ∀ term, term.key ∈ t.ids → ∀ prefixes selected,
    t.ensure prefixes selected term = (t, term.key, none)
  /-- The id that is returned is the key of the term, and there is a node under it. -/
  ensured : ∀ term prefixes selected, (t.ensure prefixes selected term).2.1 = term.key ∧ ∃ n,
    (t.ensure prefixes selected term).1.get? term.key = some n ∧ n.id = term.key
  /-- Nothing but making the table anew moves, removes or renames a node. -/
  keeps : ∀ u, Relation.ReflTransGen Edit t u → ∀ (i : Nat) (n : Node), t.toList[i]? = some n →
    ∃ m, u.toList[i]? = some m ∧ m = { n with category := m.category }

theorem Indexed.exists_get?_ensure (h : t.Indexed) (prefixes : Prefixes) (selected : List String)
    (term : Term) :
    ∃ n, (t.ensure prefixes selected term).1.get? term.key = some n ∧ n.id = term.key := by
  have hindexed : (t.ensure prefixes selected term).1.Indexed :=
    Step.indexed (.ensure t prefixes selected term) h
  have hmem : (t.ensure prefixes selected term).1.contains term.key = true := by
    rw [ensure_fst, contains_insert]
    simp [newNode]
  obtain ⟨n, hn, hid⟩ := List.mem_map.mp (hindexed.contains_iff.mp hmem)
  have hfound : ((t.ensure prefixes selected term).1.get? term.key).isSome = true := by
    rw [hindexed.get?_eq_find?, List.find?_isSome]
    exact ⟨n, hn, by simpa using hid⟩
  obtain ⟨m, hm⟩ := Option.isSome_iff_exists.mp hfound
  exact ⟨m, hm, hindexed.id_of_get? hm⟩

theorem wellKept_of_indexed (h : t.Indexed) : t.WellKept where
  nodup_ids := h.nodup_ids
  contains_iff _ := h.contains_iff
  index := h.index_eq_findIdx?
  lt_size _ _ := h.lt_size
  get? := h.get?_eq_find?
  update := h.toList_update_eq
  ensure _ hmem prefixes selected := ensure_of_contains (h.contains_iff.mpr hmem) prefixes selected
  ensured term prefixes selected :=
    ⟨t.ensure_id prefixes selected term, h.exists_get?_ensure prefixes selected term⟩
  keeps _ hu _ _ hn := (keeps_of_edits hu h).2.exists_getElem? hn

/-- **Wherever operations lead, the table is well kept**: terms are given nodes, categories are set, type
edges are taken into account, and the table is made anew from any list of nodes, of which it then holds
the first of each id, in their order. These are all the operations there are. -/
theorem Reachable.wellKept (h : t.Reachable) :
    t.WellKept ∧
    (∀ u, Step t u ↔ Edit t u ∨ ∃ ns, u = ofNodes ns) ∧
    ∀ ns, (ofNodes ns).ids = (ns.map Node.id).eraseDups ∧
      ∀ id, (ofNodes ns).get? id = ns.find? fun n => n.id = id :=
  ⟨wellKept_of_indexed h.indexed, fun _ => step_iff, fun ns => ⟨ids_ofNodes ns, get?_ofNodes ns⟩⟩

/-- Nodes from elsewhere: one has the key of a variable but is none, another one comes too late. -/
def foreignNodes : List Node :=
  [⟨"var:?x", "first", .iri, .individual, false⟩, ⟨"", "", .blank, .literal, true⟩,
    ⟨"var:?x", "second", .var, .var, true⟩]

/-- The variable is given no node of its own but the id of the one that has its key, which stays first. -/
theorem wellKept_foreignNodes :
    ((ofNodes foreignNodes).setCategory "" .unknown).Reachable ∧
    ((ofNodes foreignNodes).setCategory "" .unknown).ids = ["var:?x", ""] ∧
    (ofNodes foreignNodes).get? "var:?x" = some ⟨"var:?x", "first", .iri, .individual, false⟩ ∧
    ((ofNodes foreignNodes).setCategory "" .unknown).ensure .empty ["var:?x"] (.var "x") =
      ((ofNodes foreignNodes).setCategory "" .unknown, "var:?x", none) ∧
    ∀ u, Relation.ReflTransGen Edit ((ofNodes foreignNodes).setCategory "" .unknown) u →
      ∃ m, u.toList[0]? = some m ∧ m.label = "first" := by
  have hanew : (ofNodes foreignNodes).Reachable := Reachable.empty.step (.ofNodes _ _)
  have hreachable := hanew.step (.setCategory _ "" .unknown)
  have hnodes : ((ofNodes foreignNodes).setCategory "" .unknown).toList =
      [⟨"var:?x", "first", .iri, .individual, false⟩, ⟨"", "", .blank, .unknown, true⟩] := by
    rw [setCategory, (indexed_ofNodes _).toList_update, toList_ofNodes]
    rfl
  obtain ⟨hkept, -, hofNodes⟩ := hreachable.wellKept
  have hids : ((ofNodes foreignNodes).setCategory "" .unknown).ids = ["var:?x", ""] := by
    rw [ids, hnodes]
    rfl
  refine ⟨hreachable, hids, ?_, ?_, ?_⟩
  · rw [(hofNodes foreignNodes).2]
    decide
  · apply hkept.ensure
    rw [hids]
    decide
  · intro u hu
    obtain ⟨m, hm, hsame⟩ := hkept.keeps u hu 0 _ (by rw [hnodes]; rfl)
    refine ⟨m, hm, ?_⟩
    rw [hsame]

end NodeTable

end QueryGraph
