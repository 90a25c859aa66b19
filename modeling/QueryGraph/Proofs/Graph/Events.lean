import QueryGraph.Proofs.Graph.Drawing
import QueryGraph.Proofs.Tree.Flatten

/-!
# `Proofs.Graph.Events` — what is reported is what is there

Events are reported while the work is done: a pattern that is not drawn when the walk passes it, a node
when it comes to the table, and in the end what the graph has become. So the events of a build can be
written down from the WHERE tree and the finished graph alone, as though they had been reported by someone
who reads both from left to right.

## Contents
- `undrawn` — the patterns of a tree that are not drawn, with their addresses; `mem_undrawn`,
  `pairwise_undrawn`, `skipped_walkWhere`.
- `Node.event` — the event of a node.
- `Drawing.Reports` — a drawing has reported its nodes; each operation keeps this.
- `Query.events_build` — the main statement.
-/

namespace QueryGraph

/-! ## Patterns that are not drawn -/

/-- The patterns of a tree that are not drawn: their addresses and kinds, from left to right. -/
def undrawn (ps : List Pattern) : List (Address × String) :=
  (preorder ps).filterMap fun x => x.2.otherKind?.map fun kind => (x.1, kind)

theorem Pattern.otherKind?_eq_some_iff {p : Pattern} {kind : String} :
    p.otherKind? = some kind ↔ p = .other kind := by
  cases p <;> simp

/-- They are all of the patterns of other kinds, at any depth. -/
theorem mem_undrawn {ps : List Pattern} {a : Address} {kind : String} :
    (a, kind) ∈ undrawn ps ↔ patternAt ps a = some (.other kind) := by
  simp only [undrawn, List.mem_filterMap, Option.map_eq_some_iff, Pattern.otherKind?_eq_some_iff]
  constructor
  · rintro ⟨⟨b, p⟩, hp, kind', hkind, heq⟩
    obtain ⟨rfl, rfl⟩ := Prod.mk.inj heq
    rw [← mem_preorder, ← hkind]
    exact hp
  · intro h
    exact ⟨(a, .other kind), mem_preorder.mpr h, kind, rfl, rfl⟩

/-- They are listed depth first, and none of them twice. -/
theorem pairwise_undrawn (ps : List Pattern) : (undrawn ps).Pairwise fun x y => x.1 < y.1 := by
  rw [undrawn, List.pairwise_filterMap]
  refine (pairwise_preorder ps).imp fun {x y} hlt => ?_
  intro x' hx y' hy
  obtain ⟨_, -, rfl⟩ := Option.map_eq_some_iff.mp hx
  obtain ⟨_, -, rfl⟩ := Option.map_eq_some_iff.mp hy
  exact hlt

/-- **The walk passes over them**, one by one. -/
theorem skipped_walkWhere (ps : List Pattern) :
    (walkWhere ps).skipped = (undrawn ps).map Prod.snd := by
  rw [walkWhere, walkAll_eq, undrawn, List.map_filterMap]
  show (preorder ps).filterMap _ = _
  congr 1
  funext x
  cases x.2.otherKind? <;> rfl

/-- One below a union inside an OPTIONAL block, in its second branch, and one beside that block. -/
example : undrawn [.optional [.basic [], .union [[], [.other "bind"]]], .other "values"] =
    [([0, 0, 1, 1, 0], "bind"), ([1], "values")] := rfl

/-! ## Nodes -/

/-- The event of a node that comes to a table. -/
def Node.event (n : Node) : Event := .newNode n.id n.kind

namespace Drawing

variable {pen : Pen} {skipped : List String} {d : Drawing}

/-- **A drawing has reported what is there**: the patterns passed over, and then its nodes in their
order. -/
def Reports (skipped : List String) (d : Drawing) : Prop :=
  d.events.toList = skipped.map Event.skipped ++ d.table.toList.map Node.event

theorem reports_start (skipped : List String) : (start skipped).Reports skipped := by
  show (skipped.map Event.skipped).toArray.toList = _
  rw [table_start]
  simp [NodeTable.empty, NodeTable.toList]

/-- A node is reported exactly when it comes to the table. -/
theorem Reports.ensure (h : d.Reports skipped) (pen : Pen) (term : Term) :
    (d.ensure pen term).Reports skipped := by
  by_cases hc : d.table.contains term.key = true
  · have hsame : d.ensure pen term = d := by
      rw [Drawing.ensure, NodeTable.ensure_of_contains hc]
    rw [hsame]
    exact h
  · have hnew : d.table.ensure pen.prefixes pen.selected term =
        (d.table.insert (pen.node term), term.key, some (pen.node term)) := by
      rw [NodeTable.ensure, if_neg hc]
      rfl
    have hnodes : (d.table.insert (pen.node term)).toList = d.table.toList ++ [pen.node term] := by
      rw [NodeTable.toList_insert, if_neg (show ¬ d.table.contains (pen.node term).id = true from hc)]
    rw [Drawing.ensure, hnew]
    show (d.events.push (pen.node term).event).toList = _
    rw [Array.toList_push, h, hnodes, List.map_append, List.append_assoc]
    rfl

theorem Reports.draw (h : d.Reports skipped) (pen : Pen) (s : ScopedTriple) :
    (d.draw pen s).Reports skipped := by
  have hends := (h.ensure pen s.triple.subject).ensure pen s.triple.object
  -- The edge comes to neither the events nor the table.
  rw [Drawing.draw]
  unfold Reports at hends ⊢
  exact hends

/-- **Drawing some triples** reports their new nodes. -/
theorem Reports.foldl_draw (h : d.Reports skipped) (pen : Pen) (ts : List ScopedTriple) :
    (ts.foldl (Drawing.draw pen) d).Reports skipped := by
  induction ts generalizing d with
  | nil => exact h
  | cons s ts ih => exact ih (h.draw pen s)

end Drawing

/-! ## The events of a build -/

namespace Query

variable (q : Query) (a : Annotations)

theorem reports_drawn : (q.drawn a).Reports ((undrawn q.wherePatterns).map Prod.snd) := by
  rw [← skipped_walkWhere]
  exact (Drawing.reports_start _).foldl_draw (q.pen a) q.scopedTriples

/-- The type edges are looked at after the nodes have been reported, and change nothing of that. -/
theorem map_event_nodes_build :
    (q.build a).nodes.map Node.event = (q.drawn a).table.toList.map Node.event := by
  have hindexed : (q.drawn a).table.Indexed := by
    rw [drawn, Drawing.table_foldl_draw, Drawing.table_start]
    exact NodeTable.indexed_empty.foldl_insert _
  rw [build_eq]
  show ((q.drawn a).table.applyTypes _).toList.map Node.event = _
  rw [hindexed.toList_applyTypes, List.map_map]
  rfl

/-- The last event sums up what has been drawn. -/
theorem events_eq :
    (q.buildWithEvents a).2 =
      (q.drawn a).events.toList ++ [.built (q.build a).queryType (q.build a).tripleCount
        (q.build a).nodes.length (q.build a).edges.length] := by
  show ((q.drawn a).events.push (.built _ _ _ _)).toList = _
  rw [Array.toList_push]
  rfl

/-- **A build reports what is there.** Its events are, in this order: one for each pattern of the WHERE tree
that is not drawn, at any depth and depth first, with its kind; one for each node of the graph, in the order
of the graph, with its id and kind; and one for the whole, with the type and the counts of the graph. Nothing
else is reported, and this is what their messages and fields say. -/
theorem events_build :
    (q.buildWithEvents a).2 =
      (undrawn q.wherePatterns).map (fun x => .skipped x.2) ++
      (q.build a).nodes.map (fun n => .newNode n.id n.kind) ++
      [.built (q.build a).queryType (q.build a).tripleCount (q.build a).nodes.length
        (q.build a).edges.length] ∧
    (q.buildWithEvents a).2.map (fun e => (e.message, e.fields)) =
      (undrawn q.wherePatterns).map (fun x => ("skipping pattern group", [("kind", x.2)])) ++
      (q.build a).nodes.map (fun n => ("new node", [("id", n.id), ("kind", n.kind.name)])) ++
      [("built graph model", [("query_type", (q.build a).queryType),
        ("triples", toString (q.build a).tripleCount), ("nodes", toString (q.build a).nodes.length),
        ("edges", toString (q.build a).edges.length)])] ∧
    (∀ b kind, (b, kind) ∈ undrawn q.wherePatterns ↔
      patternAt q.wherePatterns b = some (.other kind)) ∧
    (undrawn q.wherePatterns).Pairwise fun x y => x.1 < y.1 := by
  have hevents := q.events_eq a
  rw [q.reports_drawn a, ← map_event_nodes_build, List.map_map] at hevents
  refine ⟨hevents, ?_, fun b kind => mem_undrawn, pairwise_undrawn q.wherePatterns⟩
  rw [hevents, List.map_append, List.map_append, List.map_map, List.map_map]
  rfl

end Query

end QueryGraph
