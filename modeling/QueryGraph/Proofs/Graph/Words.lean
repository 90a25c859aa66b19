import QueryGraph.Proofs.Graph.Drawing
import QueryGraph.Proofs.Graph.ReadBack
import QueryGraph.Proofs.Tree.Chains

/-!
# `Proofs.Graph.Words` — how large the counts of a graph get

The numbers in a graph count what is in the WHERE clause: its triples, the unions before a union and
the branches before a branch. So they are words of 64 bits, as long as these are few enough.

## Contents
- `unionsBefore_lt_unionsIn`, `lt_length_children` — bounds for unions and branches.
- `Query.FitsWords` — the WHERE clause can be counted.
- `Query.fitsWords_build` — then the counts of the graph are words.
-/

namespace QueryGraph

/-! ## Bounds -/

/-- A union is not counted among those before it. -/
theorem unionsBefore_lt_unionsIn {ps : List Pattern} {c : Address} {bs : List (List Pattern)}
    (hc : patternAt ps c = some (.union bs)) : unionsBefore ps c < unionsIn (preorder ps) := by
  refine countP_lt_countP ?_ (mem_preorder.mpr hc) ?_ rfl
  · exact fun x _ hx => (Bool.and_eq_true_iff.mp hx).1
  · simp

/-- The way to a pattern goes through the lists that are there. -/
theorem lt_length_children {ps : List Pattern} {c rest : Address} {b : Nat} {p q : Pattern}
    (hp : patternAt ps c = some p) (hq : patternAt ps (c ++ b :: rest) = some q) :
    b < p.children.length := by
  induction ps, c using patternAt.induct with
  | case1 ps => simp [patternAt] at hp
  | case2 ps i =>
      obtain ⟨p', qs, hp', hqs, -⟩ := patternAt_cons_cons_eq_some_iff.mp hq
      rw [patternAt, hp', Option.some.injEq] at hp
      subst hp
      exact (List.getElem?_eq_some_iff.mp hqs).1
  | case3 ps i b' c ih =>
      obtain ⟨p', qs, hp', hqs, hp⟩ := patternAt_cons_cons_eq_some_iff.mp hp
      rw [List.cons_append, List.cons_append, patternAt_cons_cons hp' hqs] at hq
      exact ih qs hp hq

/-- The entries of the chain of a pattern are bounded by the unions of the tree and the branches of the
union they belong to. -/
theorem lt_of_mem_chainAt {ps : List Pattern} {a : Address} {p : Pattern}
    (hp : patternAt ps a = some p) {r : BranchRef} (hr : r ∈ chainAt ps a) :
    r.union < unionsIn (preorder ps) ∧ ∃ x ∈ preorder ps, r.branch < x.2.children.length := by
  obtain ⟨u, b⟩ := r
  obtain ⟨c, bs, hunion, hu, rest, hway⟩ := mem_chainAt.mp hr
  -- The way to the pattern enters the union by the branch of the entry.
  rw [← hway, List.append_assoc, List.singleton_append] at hp
  refine ⟨?_, (c, .union bs), mem_preorder.mpr hunion, lt_length_children hunion hp⟩
  rw [← hu]
  exact unionsBefore_lt_unionsIn hunion

/-! ## Queries -/

namespace Query

/-- The WHERE clause of a query can be counted in words of 64 bits: its triples, its unions, and the
branches of each. -/
structure FitsWords (q : Query) : Prop where
  triples : q.scopedTriples.length < Nat.pow 2 64
  unions : unionsIn (preorder q.wherePatterns) ≤ Nat.pow 2 64
  branches : ∀ x ∈ preorder q.wherePatterns, x.2.children.length ≤ Nat.pow 2 64

/-- **The counts of a graph are words**, if the WHERE clause can be counted. -/
theorem fitsWords_build {q : Query} (h : q.FitsWords) (a : Annotations) : (q.build a).FitsWords where
  tripleCount := h.triples
  branches := by
    intro e he r hr
    rw [edges_build, scopedTriples, flatten_eq] at he
    obtain ⟨i, hi, rfl⟩ := List.mem_mapIdx.mp he
    rw [List.getElem_map] at hr
    obtain ⟨ts, hp, -⟩ := mem_places.mp (List.getElem_mem (List.length_map _ ▸ hi))
    obtain ⟨hunion, x, hx, hbranch⟩ := lt_of_mem_chainAt hp hr
    exact ⟨Nat.lt_of_lt_of_le hunion h.unions, Nat.lt_of_lt_of_le hbranch (h.branches x hx)⟩

end Query

end QueryGraph
