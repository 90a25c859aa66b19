import QueryGraph.Graph.NodeTable
import QueryGraph.Proofs.Graph.FirstSeen

/-!
# `Proofs.Graph.Table` — a node table is the list of its nodes

A node table keeps its nodes twice: in order, and by id in a hash index. The two are in step when the
index holds exactly the ids and sends each to its position (`NodeTable.Indexed`). Then every operation
can be told by what it does to the list of nodes, and the index need not be looked at any more.

## Contents
- `NodeTable.Indexed` — index and nodes are in step; `Indexed.nodup_ids`, `Indexed.contains_iff`.
- `indexed_empty`, `Indexed.insert`, `Indexed.update` — every operation keeps them in step.
- `toList_foldl_insert` — adding nodes one by one leaves the first of each id.
- `Indexed.toList_update` — changing a node changes it in the list.
-/

namespace QueryGraph

namespace NodeTable

/-! ## Index and nodes in step -/

/-- The ids of the nodes, in order. -/
def ids (t : NodeTable) : List String := t.toList.map Node.id

/-- **Index and nodes are in step**: the index sends an id to a position exactly when a node with this
id is there. -/
def Indexed (t : NodeTable) : Prop :=
  ∀ (id : String) (i : Nat), t.index[id]? = some i ↔ t.ids[i]? = some id

variable {t : NodeTable}

/-- No id comes twice, since the index has one position for it. -/
theorem Indexed.nodup_ids (h : t.Indexed) : t.ids.Nodup := by
  rw [List.Nodup, List.pairwise_iff_getElem]
  intro i j hi hj hij heq
  have hindex := (h _ i).mpr (List.getElem?_eq_getElem hi)
  rw [heq, (h _ j).mpr (List.getElem?_eq_getElem hj)] at hindex
  exact Nat.ne_of_gt hij (Option.some.inj hindex)

theorem Indexed.contains_iff (h : t.Indexed) {id : String} :
    t.contains id = true ↔ id ∈ t.ids := by
  rw [contains, Std.HashMap.contains_eq_isSome_getElem?, Option.isSome_iff_exists,
    List.mem_iff_getElem?]
  exact exists_congr fun i => h id i

theorem indexed_empty : Indexed empty := by
  intro id i
  simp [empty, ids, toList]

/-! ## Adding nodes -/

theorem ids_insert (t : NodeTable) (n : Node) :
    (t.insert n).ids = if t.contains n.id then t.ids else t.ids ++ [n.id] := by
  rw [ids, toList_insert]
  split
  · rfl
  · rw [List.map_append]
    rfl

theorem Indexed.insert (h : t.Indexed) (n : Node) : (t.insert n).Indexed := by
  intro id i
  by_cases hc : t.contains n.id = true
  · rw [NodeTable.insert, if_pos hc]
    exact h id i
  · have hsize : t.nodes.size = t.ids.length := by simp [ids, toList]
    have hnew : n.id ∉ t.ids := fun hmem => hc (h.contains_iff.mpr hmem)
    have hindex : (t.insert n).index = t.index.insert n.id t.ids.length := by
      rw [NodeTable.insert, if_neg hc, hsize]
    rw [hindex, ids_insert, if_neg hc, Std.HashMap.getElem?_insert]
    by_cases hid : n.id = id
    · -- The new id is at the end, and nowhere else.
      subst hid
      rw [if_pos (beq_self_eq_true _), Option.some.injEq]
      constructor
      · rintro rfl
        exact List.getElem?_concat_length
      · intro hi
        rcases Nat.lt_trichotomy i t.ids.length with hlt | heq | hgt
        · rw [List.getElem?_append_left hlt] at hi
          exact absurd (List.mem_of_getElem? hi) hnew
        · exact heq.symm
        · rw [List.getElem?_eq_none (by simp; omega)] at hi
          simp at hi
    · rw [if_neg (by simpa using hid), h id i]
      rcases Nat.lt_trichotomy i t.ids.length with hlt | heq | hgt
      · rw [List.getElem?_append_left hlt]
      · subst heq
        simp [hid]
      · rw [List.getElem?_eq_none (by omega), List.getElem?_eq_none (by simp; omega)]

theorem Indexed.foldl_insert (h : t.Indexed) (ns : List Node) : (ns.foldl NodeTable.insert t).Indexed := by
  induction ns generalizing t with
  | nil => exact h
  | cons n ns ih => exact ih (h.insert n)

/-- **Adding nodes one by one** leaves, after those that are there, the first node of each new id. -/
theorem toList_foldl_insert (h : t.Indexed) (ns : List Node) :
    (ns.foldl insert t).toList =
      t.toList ++ firstBy Node.id (ns.filter fun n => !t.contains n.id) := by
  induction ns generalizing t with
  | nil => simp
  | cons n ns ih =>
      rw [List.foldl_cons, ih (h.insert n), toList_insert]
      by_cases hc : t.contains n.id = true
      · have hsame : t.insert n = t := by rw [NodeTable.insert, if_pos hc]
        rw [if_pos hc, hsame, List.filter_cons_of_neg (by simp [hc])]
      · rw [if_neg hc, List.filter_cons_of_pos (by simpa using hc), firstBy_cons, List.filter_filter,
          List.append_assoc, List.singleton_append]
        congr 3
        refine List.filter_congr fun m _ => ?_
        rw [contains_insert, Bool.not_or, Bool.beq_comm]

/-- The table of a list of nodes holds the first node of each id. -/
theorem toList_foldl_insert_empty (ns : List Node) :
    (ns.foldl insert empty).toList = firstBy Node.id ns := by
  have hall : ns.filter (fun n => !empty.contains n.id) = ns := by
    simp [empty, contains]
  rw [toList_foldl_insert indexed_empty, hall]
  rfl

/-- Making sure of a term adds its node, if it is new. -/
theorem ensure_fst (t : NodeTable) (prefixes : Prefixes) (selected : List String) (term : Term) :
    (t.ensure prefixes selected term).1 = t.insert (newNode prefixes selected term) := by
  by_cases hc : t.contains term.key = true
  · rw [ensure_of_contains hc, NodeTable.insert, if_pos (show t.contains (newNode ..).id = true from hc)]
  · rw [ensure, if_neg hc]

/-! ## Changing nodes -/

/-- **Changing a node** changes it in the list of nodes, and no other. -/
theorem Indexed.toList_update (h : t.Indexed) (id : String) (f : Node → Node) :
    (t.update id f).toList = t.toList.map fun n => if n.id = id then f n else n := by
  apply List.ext_getElem?
  intro j
  rw [List.getElem?_map]
  have hpos : ∀ n, t.toList[j]? = some n → (t.index[id]? = some j ↔ n.id = id) := by
    intro n hn
    rw [h id j, ids, List.getElem?_map, hn]
    simp
  rw [update]
  cases hindex : t.index[id]? with
  | none =>
      cases hn : t.toList[j]? with
      | none => rfl
      | some n =>
          have hne : ¬ n.id = id := fun heq => by
            have hfound := (hpos n hn).mpr heq
            rw [hindex] at hfound
            simp at hfound
          simp [hne]
  | some i =>
      show (t.nodes.modify i f).toList[j]? = _
      rw [Array.toList_modify, List.getElem?_modify]
      show _ <$> t.toList[j]? = _
      cases hn : t.toList[j]? with
      | none => rfl
      | some n =>
          have hij : i = j ↔ n.id = id := by
            rw [← hpos n hn, hindex, Option.some.injEq]
          simp [hij]

/-- A change that keeps ids keeps index and nodes in step. -/
theorem Indexed.update (h : t.Indexed) (id : String) {f : Node → Node} (hf : ∀ n, (f n).id = n.id) :
    (t.update id f).Indexed := by
  have hids : (t.update id f).ids = t.ids := by
    rw [ids, h.toList_update, List.map_map, ids]
    refine List.map_congr_left fun n _ => ?_
    show (if n.id = id then f n else n).id = n.id
    split
    · exact hf n
    · rfl
  intro other i
  rw [index_update, hids]
  exact h other i

end NodeTable

end QueryGraph
