import QueryGraph.Proofs.Graph.Invariants
import QueryGraph.Proofs.Graph.Words
import QueryGraph.Proofs.Rdf.Key

/-!
# `Proofs.Graph.Elements` — elements know each other by their ids

A list of elements is all that a drawing program gets, and it joins them by their ids. The id of an edge
is put together from texts that may hold anything, separators included; but it ends in the number of the
edge, which can be read off from the right, since there is no colon in a number. And it starts with a
letter that no key starts with.

## Contents
- `number_eq_of_edgeId_eq`, `edgeId_ne_key` — what an edge id does not share.
- `Query.nodup_ids_build` — the ids of nodes and edges together.
- `GraphModel.isExact_toElements`, `GraphModel.depth_toElements_le` — elements can be decoded.
- `GraphModel.HasElements`, `Query.hasElements_build` — the main statement.
-/

namespace QueryGraph

open Json

/-! ## Edge ids -/

theorem colon_not_mem_toString (n : Nat) : ':' ∉ (toString n).toList := by
  rw [Nat.toString_eq_repr, Nat.toList_repr]
  intro h
  exact absurd (isDigit_of_mem_toDigits h) (by decide)

/-- A number is known by its digits. -/
theorem eq_of_toString_toList_eq {m n : Nat} (h : (toString m).toList = (toString n).toList) :
    m = n := by
  rw [Nat.toString_eq_repr, Nat.toString_eq_repr, Nat.toList_repr, Nat.toList_repr] at h
  rw [← digitsValue_toDigits m, h, digitsValue_toDigits]

/-- **The number of an edge can be read off its id**, whatever the texts in front of it are. -/
theorem number_eq_of_edgeId_eq {source label target source' label' target' : String} {m n : Nat}
    (h : edgeId source label target m = edgeId source' label' target' n) : m = n := by
  have hsplit : ∀ source label target n, ∃ front : List Char,
      (edgeId source label target n).toList = front ++ ':' :: (toString n).toList := by
    intro source label target n
    -- The second colon of the last separator stands right before the number.
    refine ⟨("e:" ++ source ++ "::" ++ label ++ "::" ++ target).toList ++ [':'], ?_⟩
    rw [edgeId, String.toList_append, String.toList_append, List.append_assoc, List.append_assoc]
    rfl
  obtain ⟨front, hfront⟩ := hsplit source label target m
  obtain ⟨front', hfront'⟩ := hsplit source' label' target' n
  have hlist := congrArg String.toList h
  rw [hfront, hfront'] at hlist
  exact eq_of_toString_toList_eq
    (eq_and_eq_of_append_cons_eq (colon_not_mem_toString m) (colon_not_mem_toString n) hlist).2

/-- **An edge id is no key.** -/
theorem edgeId_ne_key (source label target : String) (n : Nat) (t : Term) :
    edgeId source label target n ≠ t.key := by
  intro h
  have hedge : (edgeId source label target n).toList.head? = some 'e' := by
    simp [edgeId, String.toList_append]
  rw [h, t.head?_key] at hedge
  cases t <;> simp [Term.initial] at hedge

/-! ## Ids of a graph -/

namespace Query

variable {q : Query} {a : Annotations}

theorem nodup_edgeIds_build (q : Query) (a : Annotations) : ((q.build a).edges.map Edge.id).Nodup := by
  rw [edges_build, List.nodup_iff_pairwise_ne, List.pairwise_iff_getElem]
  intro i j hi hj hij heq
  simp only [List.getElem_map, List.getElem_mapIdx] at heq
  exact Nat.ne_of_lt hij (number_eq_of_edgeId_eq heq)

/-- **The ids of nodes and edges are all different.** -/
theorem nodup_ids_build (q : Query) (a : Annotations) :
    ((q.build a).nodes.map Node.id ++ (q.build a).edges.map Edge.id).Nodup := by
  refine List.nodup_append.mpr ⟨q.nodup_nodeIds_build a, q.nodup_edgeIds_build a, ?_⟩
  rintro _ hnode _ hedge rfl
  obtain ⟨t, -, hkey⟩ := mem_ids_build.mp hnode
  obtain ⟨e, he, hid⟩ := List.mem_map.mp hedge
  rw [edges_build] at he
  obtain ⟨i, hi, rfl⟩ := List.mem_mapIdx.mp he
  exact edgeId_ne_key _ _ _ _ t (hid.trans hkey.symm)

end Query

/-! ## Elements -/

theorem isExact_element {v : Value} (h : v.IsExact) : (element v).IsExact := by
  refine .object (by simp) ?_
  simp only [List.forall_mem_cons]
  exact ⟨h, by simp⟩

theorem depth_element_le {v : Value} {n : Nat} (h : v.depth ≤ n) : (element v).depth ≤ n + 1 := by
  refine depth_object_le_iff.mpr ?_
  simp only [List.forall_mem_cons]
  exact ⟨h, by simp⟩

theorem GraphModel.isExact_toElements {g : GraphModel} (h : g.FitsWords) : g.toElements.IsExact := by
  refine .array ?_
  rw [List.forall_mem_append, List.forall_mem_map, List.forall_mem_map]
  exact ⟨fun n _ => isExact_element n.isExact_toJson,
    fun e he => isExact_element (e.isExact_toJson (h.branches e he))⟩

theorem GraphModel.depth_toElements_le (g : GraphModel) : g.toElements.depth ≤ 5 := by
  refine depth_array_le_iff.mpr ?_
  rw [List.forall_mem_append, List.forall_mem_map, List.forall_mem_map]
  exact ⟨fun n _ => depth_element_le (Nat.le_trans n.depth_toJson_le (by decide)),
    fun e _ => depth_element_le e.depth_toJson_le⟩

theorem Node.stringAt?_id_toJson (n : Node) : n.toJson.stringAt? "id" = some n.id := rfl

theorem Edge.stringAt?_toJson (e : Edge) :
    e.toJson.stringAt? "id" = some e.id ∧ e.toJson.stringAt? "source" = some e.source ∧
      e.toJson.stringAt? "target" = some e.target := ⟨rfl, rfl, rfl⟩

/-- Both ends of an edge are written, and are the ids of nodes. -/
theorem Query.exists_node_of_end {q : Query} {a : Annotations} {e : Edge} (he : e ∈ (q.build a).edges)
    {side : String} (hside : side ∈ ["source", "target"]) :
    ∃ n ∈ (q.build a).nodes, e.toJson.stringAt? side = some n.id := by
  obtain ⟨⟨m, hm⟩, ⟨n, hn⟩⟩ := exists_node?_of_mem_edges he
  rcases List.mem_cons.mp hside with rfl | hside
  · exact ⟨m, GraphModel.mem_of_node? hm, by rw [e.stringAt?_toJson.2.1, GraphModel.id_of_node? hm]⟩
  · obtain rfl := List.mem_singleton.mp hside
    exact ⟨n, GraphModel.mem_of_node? hn, by rw [e.stringAt?_toJson.2.2, GraphModel.id_of_node? hn]⟩

/-- The elements of a graph, decoded from a document of theirs, are those of its other form: their data
are the nodes there and then the edges there, in order. Each has an id of its own, and both ends of an
edge are ids of nodes, which all stand before the edges. -/
def GraphModel.HasElements (g : GraphModel) (layout layout' : Layout) : Prop :=
  ∃ (v : Value) (nodes edges : List Value) (ids : List String),
    decode (g.document .json layout) = .ok v ∧
    v.arrayAt? "nodes" = some nodes ∧ v.arrayAt? "edges" = some edges ∧
    decode (g.document .cytoscape layout') =
      .ok (.array ((nodes ++ edges).map fun data => .object [("data", data)])) ∧
    (nodes ++ edges).map (Value.stringAt? "id") = ids.map some ∧ ids.Nodup ∧
    ∀ e ∈ edges, ∀ side ∈ ["source", "target"], ∃ n ∈ nodes, ∃ id,
      e.stringAt? side = some id ∧ n.stringAt? "id" = some id

namespace Query

/-- **The elements of the graph of a query** are its nodes and then its edges, told apart by their ids,
whatever the terms and prefixes of the query are made of. -/
theorem hasElements_build {q : Query} (h : q.FitsWords) (a : Annotations) (layout layout' : Layout) :
    (q.build a).HasElements layout layout' := by
  have hwords := q.fitsWords_build h a
  have helements : decode ((q.build a).document .cytoscape layout') = .ok (q.build a).toElements :=
    decode_write (GraphModel.isExact_toElements hwords)
      (Nat.le_trans (q.build a).depth_toElements_le (by decide)) (by simp [isBlank])
  refine ⟨_, (q.build a).nodes.map Node.toJson, (q.build a).edges.map Edge.toJson, _,
    GraphModel.decode_document hwords layout, rfl, rfl, ?_, ?_, q.nodup_ids_build a, ?_⟩
  · rw [helements, GraphModel.toElements, List.map_append, List.map_map, List.map_map]
    rfl
  · simp only [List.map_append, List.map_map]
    rfl
  · intro v hv side hside
    obtain ⟨e, he, rfl⟩ := List.mem_map.mp hv
    obtain ⟨n, hn, hend⟩ := exists_node_of_end he hside
    exact ⟨n.toJson, List.mem_map_of_mem hn, n.id, hend, n.stringAt?_id_toJson⟩

/-- Terms that look like parts of edge ids, in a union and twice. -/
def colonQuery : Query :=
  let t : Triple := ⟨.var "x::0", .term (.iri "::1"), .iri "e:var:?x::0"⟩
  ofPatterns [.union [[], [.basic [t, t]]], .optional [.basic [⟨.iri "", .term .unknown, .blank "::2"⟩]]]

theorem hasElements_colonQuery :
    colonQuery.FitsWords ∧ (colonQuery.build .standard).HasElements .pretty .compact :=
  have hwords : colonQuery.FitsWords := ⟨by decide, by decide, by decide⟩
  ⟨hwords, hasElements_build hwords .standard .pretty .compact⟩

end Query

end QueryGraph
