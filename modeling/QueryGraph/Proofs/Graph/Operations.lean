import QueryGraph.Proofs.Graph.Typing

/-!
# `Proofs.Graph.Operations` — tables that operations lead to

A node table is not only filled while a graph is drawn. It can be made anew from any list of nodes, also
one that repeats ids or follows no scheme of keys, and categories can be set one by one, to whatever is
wanted. All that can come about in this way is `NodeTable.Reachable`; what every operation keeps holds
there.

## Contents
- `NodeTable.Step`, `Reachable` — one operation, and any number of them.
- `Step.indexed`, `Reachable.indexed` — index and nodes stay in step.
- `toList_ofNodes`, `Indexed.toList_ofNodes_toList` — a table made anew, and one made anew from its own
  nodes.
- `index_applyTypes` — type edges do not touch the index.
-/

namespace QueryGraph

namespace NodeTable

/-! ## Operations -/

/-- **One operation** on a node table. -/
inductive Step : NodeTable → NodeTable → Prop
  /-- A term is given a node, unless it has one. -/
  | ensure (t : NodeTable) (prefixes : Prefixes) (selected : List String) (term : Term) :
      Step t (t.ensure prefixes selected term).1
  /-- The table is given up for one that is made of a list of nodes. -/
  | ofNodes (t : NodeTable) (ns : List Node) : Step t (ofNodes ns)
  /-- A node is given another category. -/
  | setCategory (t : NodeTable) (id : String) (category : NodeCategory) :
      Step t (t.setCategory id category)
  /-- Some type edges are taken into account. -/
  | applyTypes (t : NodeTable) (es : List Edge) : Step t (t.applyTypes es)

/-- **A table that operations lead to**, from one without nodes. -/
inductive Reachable : NodeTable → Prop
  | empty : Reachable empty
  | step {t u : NodeTable} (ht : Reachable t) (h : Step t u) : Reachable u

/-! ## Index and nodes stay in step -/

variable {t u : NodeTable}

theorem indexed_ofNodes (ns : List Node) : (ofNodes ns).Indexed := indexed_empty.foldl_insert ns

theorem Indexed.applyTypes (h : t.Indexed) (es : List Edge) : (t.applyTypes es).Indexed := by
  induction es generalizing t with
  | nil => exact h
  | cons e es ih => exact ih (h.applyType e)

theorem Step.indexed (h : Step t u) (ht : t.Indexed) : u.Indexed := by
  cases h with
  | ensure prefixes selected term =>
      rw [ensure_fst]
      exact ht.insert _
  | ofNodes ns => exact indexed_ofNodes ns
  | setCategory id category => exact ht.update id fun n => rfl
  | applyTypes es => exact ht.applyTypes es

/-- **Wherever operations lead**, index and nodes are in step. -/
theorem Reachable.indexed (h : t.Reachable) : t.Indexed := by
  induction h with
  | empty => exact indexed_empty
  | step _ hstep ih => exact hstep.indexed ih

/-! ## Tables made anew -/

theorem toList_ofNodes (ns : List Node) : (ofNodes ns).toList = firstBy Node.id ns :=
  toList_foldl_insert_empty ns

/-- A table made anew from its own nodes has the same nodes. -/
theorem Indexed.toList_ofNodes_toList (h : t.Indexed) : (ofNodes t.toList).toList = t.toList := by
  rw [toList_ofNodes]
  exact firstBy_eq_self h.nodup_ids

/-! ## Type edges and the index -/

theorem index_applyType (t : NodeTable) (e : Edge) : (t.applyType e).index = t.index := by
  unfold applyType
  split
  · rw [index_update, index_update]
  · rfl

theorem index_applyTypes (t : NodeTable) (es : List Edge) : (t.applyTypes es).index = t.index := by
  induction es generalizing t with
  | nil => rfl
  | cons e es ih =>
      show ((t.applyType e).applyTypes es).index = _
      rw [ih, index_applyType]

end NodeTable

end QueryGraph
