import QueryGraph.Proofs.Graph.Pens
import QueryGraph.Proofs.Tree.Address

/-!
# `Proofs.Graph.Regroup` — ways of writing a WHERE clause that give the same graph

Some patterns say nothing that the walk takes notice of. Braces alone change no scope; a pattern that is
not drawn has no triples; where one list of triples ends and the next begins is not recorded; and of two
OPTIONAL blocks one around the other, or of two GRAPH blocks, the inner one is enough. Any of these may
be rewritten, wherever in the tree it stands.

What stands around the place does not matter, because the two sides of a rewriting are alike in *every*
scope and from *every* union count on: they find the same triples in the same scopes, and leave the count
at the same number. This goes up through the tree, pattern by pattern and list by list.

## Contents
- `Pattern.modifyChild`, `replaceAt` — putting a list of patterns in the place of a pattern; they are
  found there (`patternAt_replaceAt`).
- `Walk.Alike` — two walks find the same triples and count the same unions.
- `walkAll_replaceAt` — alike at a place, alike as a whole.
- `Pattern.Regroups`, `Regroups.sameWalk` — the rewritings, and why they are alike.
- `Query.build_replaceAt` — the main statement.
-/

namespace QueryGraph

/-! ## Replacing a pattern -/

/-- A pattern with one of its lists changed. -/
def Pattern.modifyChild (b : Nat) (f : List Pattern → List Pattern) : Pattern → Pattern
  | .optional ps => if b = 0 then .optional (f ps) else .optional ps
  | .group ps => if b = 0 then .group (f ps) else .group ps
  | .graph name ps => if b = 0 then .graph name (f ps) else .graph name ps
  | .union bs => .union (bs.modify b f)
  | .basic ts => .basic ts
  | .other kind => .other kind

/-- Only the lists inside the pattern change, and of these only one. -/
theorem Pattern.children_modifyChild (b : Nat) (f : List Pattern → List Pattern) (p : Pattern) :
    (p.modifyChild b f).children = p.children.modify b f := by
  cases p with
  | union bs => rfl
  | basic ts | other kind => simp [modifyChild, children]
  | optional ps | group ps | graph name ps =>
      cases b with
      | zero => simp [modifyChild, children]
      | succ b => simp [modifyChild, children]

/-- A list with some items in the place of one. -/
def splice (ps : List Pattern) (i : Nat) (new : List Pattern) : List Pattern :=
  ps.take i ++ (new ++ ps.drop (i + 1))

/-- A tree with some patterns in the place of the one at an address. -/
def replaceAt (new : List Pattern) : List Pattern → Address → List Pattern
  | ps, [] => ps
  | ps, [i] => splice ps i new
  | ps, i :: b :: rest => ps.modify i fun p => p.modifyChild b fun qs => replaceAt new qs rest

/-- A pattern that is there stands between those before and those behind it. -/
theorem splice_self {ps : List Pattern} {p : Pattern} {i : Nat} (h : ps[i]? = some p) :
    splice ps i [p] = ps := by
  obtain ⟨hi, rfl⟩ := List.getElem?_eq_some_iff.mp h
  rw [splice, List.singleton_append, ← List.drop_eq_getElem_cons hi, List.take_append_drop]

/-- To change a pattern is to put the changed one in its place. -/
theorem modify_eq_splice {ps : List Pattern} {p : Pattern} {i : Nat} (h : ps[i]? = some p)
    (f : Pattern → Pattern) : ps.modify i f = splice ps i [f p] := by
  obtain ⟨hi, rfl⟩ := List.getElem?_eq_some_iff.mp h
  rw [splice, List.singleton_append, List.modify_eq_take_cons_drop hi]

/-- Where a pattern was replaced, the first of the new patterns is found. -/
theorem patternAt_replaceAt {p q : Pattern} {new ps : List Pattern} {a : Address}
    (hq : patternAt ps a = some q) : patternAt (replaceAt (p :: new) ps a) a = some p := by
  induction ps, a using replaceAt.induct with
  | case1 ps => simp [patternAt] at hq
  | case2 ps i =>
      obtain ⟨hi, -⟩ := List.getElem?_eq_some_iff.mp hq
      have hlength : (ps.take i).length = i := List.length_take_of_le (Nat.le_of_lt hi)
      show (ps.take i ++ (p :: new ++ ps.drop (i + 1)))[i]? = some p
      rw [List.getElem?_append_right (Nat.le_of_eq hlength), hlength, Nat.sub_self]
      rfl
  | case3 ps i b rest ih =>
      obtain ⟨r, qs, hr, hqs, hq⟩ := patternAt_cons_cons_eq_some_iff.mp hq
      have hplace : (replaceAt (p :: new) ps (i :: b :: rest))[i]? =
          some (r.modifyChild b fun qs => replaceAt (p :: new) qs rest) := by
        rw [replaceAt, List.getElem?_modify_eq, hr]
        rfl
      have hchild : (r.modifyChild b fun qs => replaceAt (p :: new) qs rest).children[b]? =
          some (replaceAt (p :: new) qs rest) := by
        rw [Pattern.children_modifyChild, List.getElem?_modify_eq, hqs]
        rfl
      rw [patternAt_cons_cons hplace hchild]
      exact ih qs hq

/-! ## Walks that are alike -/

/-- Two walks find the same triples in the same scopes, and get to the same union. They may pass over
different patterns. -/
structure Walk.Alike (v w : Walk) : Prop where
  unions : v.unions = w.unions
  triples : v.triples = w.triples

theorem Walk.Alike.refl (w : Walk) : w.Alike w := ⟨rfl, rfl⟩

theorem Walk.Alike.of_eq {v w : Walk} (h : v = w) : v.Alike w := by
  subst h
  exact .refl v

/-- Walks that are alike may be followed by walks that are alike. -/
theorem Walk.Alike.andThen {v w : Walk} {f g : Nat → Walk} (h : v.Alike w)
    (hfg : ∀ n, (f n).Alike (g n)) : (v.andThen f).Alike (w.andThen g) := by
  have hnext := hfg w.unions
  refine ⟨?_, ?_⟩
  · show (f v.unions).unions = (g w.unions).unions
    rw [h.unions, hnext.unions]
  · show v.triples ++ (f v.unions).triples = w.triples ++ (g w.unions).triples
    rw [h.unions, h.triples, hnext.triples]

/-- Some patterns are walked over like others, in any scope and from any union on. -/
def SameWalk (ps qs : List Pattern) : Prop := ∀ s u, (walkAll s u ps).Alike (walkAll s u qs)

theorem walkAll_singleton (s : Scope) (u : Nat) (p : Pattern) : walkAll s u [p] = p.walk s u :=
  Walk.andThen_still (p.walk s u)

/-- What stands beside does not matter. -/
theorem SameWalk.splice {new old : List Pattern} (h : SameWalk new old) (ps : List Pattern) (i : Nat) :
    SameWalk (splice ps i new) (splice ps i old) := by
  intro s u
  unfold QueryGraph.splice
  simp only [walkAll_append]
  exact (Walk.Alike.refl _).andThen fun n => (h s n).andThen fun m => .refl _

/-- A union is walked over alike if one of its branches is replaced by one that is walked over alike. -/
theorem walkBranches_modify {bs : List (List Pattern)} {f : List Pattern → List Pattern} {b : Nat}
    {qs : List Pattern} (hq : bs[b]? = some qs) (h : SameWalk (f qs) qs) (s : Scope)
    (union branch u : Nat) :
    (walkBranches s union branch u (bs.modify b f)).Alike (walkBranches s union branch u bs) := by
  induction bs generalizing b branch u with
  | nil => simp at hq
  | cons ps bs ih =>
      cases b with
      | zero =>
          obtain rfl : ps = qs := Option.some.inj hq
          rw [List.modify_zero_cons, walkBranches, walkBranches]
          exact (h _ u).andThen fun n => .refl _
      | succ b =>
          rw [List.modify_succ_cons, walkBranches, walkBranches]
          exact (Walk.Alike.refl _).andThen fun n => ih hq (branch + 1) n

/-- What stands around does not matter: a pattern is walked over alike if one of its lists is replaced
by one that is walked over alike. -/
theorem SameWalk.modifyChild {p : Pattern} {f : List Pattern → List Pattern} {b : Nat}
    {qs : List Pattern} (hq : p.children[b]? = some qs) (h : SameWalk (f qs) qs) :
    SameWalk [p.modifyChild b f] [p] := by
  intro s u
  rw [walkAll_singleton, walkAll_singleton]
  cases p with
  | basic ts | other kind => simp [Pattern.children] at hq
  | union bs => exact walkBranches_modify hq h s u 0 (u + 1)
  | optional ps | group ps | graph name ps =>
      -- These have one list only.
      cases b with
      | zero =>
          obtain rfl : ps = qs := Option.some.inj hq
          exact h _ u
      | succ b => simp [Pattern.children] at hq

/-- **Alike at a place, alike as a whole.** A tree is walked over alike if the pattern at an address is
replaced by patterns that are walked over alike. -/
theorem walkAll_replaceAt {new ps : List Pattern} {p : Pattern} {a : Address}
    (hp : patternAt ps a = some p) (h : SameWalk new [p]) : SameWalk (replaceAt new ps a) ps := by
  induction ps, a using replaceAt.induct with
  | case1 ps => simp [patternAt] at hp
  | case2 ps i =>
      have hsplice := h.splice ps i
      rw [splice_self hp] at hsplice
      exact hsplice
  | case3 ps i b rest ih =>
      obtain ⟨q, qs, hq, hqs, hp⟩ := patternAt_cons_cons_eq_some_iff.mp hp
      -- From the list inside to the pattern around it, and from there to the list it stands in.
      have hinner : SameWalk [q.modifyChild b fun qs => replaceAt new qs rest] [q] :=
        SameWalk.modifyChild hqs (ih qs hp)
      have hsplice := hinner.splice ps i
      rw [splice_self hq, ← modify_eq_splice hq] at hsplice
      exact hsplice

/-! ## Rewritings -/

/-- A pattern may be written as other patterns. -/
inductive Pattern.Regroups : Pattern → List Pattern → Prop
  /-- Braces may be left out. -/
  | group (ps : List Pattern) : Regroups (.group ps) ps
  /-- What is not drawn may be left out. -/
  | other (kind : String) : Regroups (.other kind) []
  /-- Triples may be divided into parts. -/
  | basic (parts : List (List Triple)) : Regroups (.basic parts.flatten) (parts.map .basic)
  /-- What is optional need not be made so twice. -/
  | optional (ps : List Pattern) : Regroups (.optional [.optional ps]) [.optional ps]
  /-- The inner graph name is the one that counts. -/
  | graph (outer inner : Term) (ps : List Pattern) :
    Regroups (.graph outer [.graph inner ps]) [.graph inner ps]

/-- The parts of a list of triples are walked over like the whole. -/
theorem walkAll_map_basic (s : Scope) (u : Nat) (parts : List (List Triple)) :
    walkAll s u (parts.map .basic) = ⟨u, parts.flatten.map fun t => ⟨t, s⟩, []⟩ := by
  induction parts with
  | nil => rfl
  | cons ts parts ih =>
      rw [List.map_cons, walkAll, Pattern.walk, Walk.andThen, ih, List.flatten_cons, List.map_append]
      rfl

/-- **Each rewriting is walked over like the pattern it replaces.** -/
theorem Pattern.Regroups.sameWalk {p : Pattern} {new : List Pattern} (h : p.Regroups new) :
    SameWalk new [p] := by
  intro s u
  rw [walkAll_singleton]
  cases h with
  | group ps => exact .refl _
  | other kind => exact ⟨rfl, rfl⟩
  | basic parts => exact .of_eq (walkAll_map_basic s u parts)
  | optional ps =>
      have htwice : s.insideOptional.insideOptional = s.insideOptional := rfl
      rw [walk, walkAll_singleton, walkAll_singleton, walk, walk, htwice]
      exact .refl _
  | graph outer inner ps =>
      have hinner : (s.insideGraph outer).insideGraph inner = s.insideGraph inner := rfl
      rw [walk, walkAll_singleton, walkAll_singleton, walk, walk, hinner]
      exact .refl _

/-! ## The graph -/

namespace Query

/-- A graph depends on the WHERE clause through its triples and their scopes only. -/
theorem build_withPatterns_eq {q : Query} {ps : List Pattern}
    (h : flatten ps = flatten q.wherePatterns) (annotations : Annotations) :
    (q.withPatterns ps).build annotations = q.build annotations := by
  have htriples : (q.withPatterns ps).scopedTriples = q.scopedTriples := h
  apply GraphModel.ext
  case queryType => rfl
  case prefixes => rfl
  case nodes =>
    apply nodes_build_eq htriples
    intro t
    rfl
  case edges =>
    apply edges_build_eq htriples
    intro i s
    rfl
  case tripleCount => exact congrArg List.length htriples

/-- **A WHERE clause may be regrouped** at any place, however deep, without any change to its graph. -/
theorem build_replaceAt {q : Query} {a : Address} {p : Pattern} {new : List Pattern}
    (hp : patternAt q.wherePatterns a = some p) (h : p.Regroups new) (annotations : Annotations) :
    (q.withPatterns (replaceAt new q.wherePatterns a)).build annotations = q.build annotations :=
  build_withPatterns_eq (walkAll_replaceAt hp h.sameWalk .root 0).triples annotations

/-- A triple for a query that is about its blocks. -/
def plainTriple (name : String) : Triple := ⟨.var name, .term (.iri "p"), .literal ⟨name, none, none⟩⟩

/-- Some patterns in a GRAPH block in an OPTIONAL block, in the second branch of a union that comes after
another union. -/
def layered (ps : List Pattern) : Query :=
  .ofPatterns [.union [], .union [[], [.optional [.other "bind", .graph (.iri "g") ps]]]]

/-- Deep down, braces, a filter, a longer list of triples, an outer OPTIONAL and an outer GRAPH make no
difference. -/
theorem build_layered :
    (layered [.basic [plainTriple "x"]]).build .standard =
      (layered [.group [.basic [plainTriple "x"]]]).build .standard ∧
    (layered [.basic [plainTriple "x"]]).build .standard =
      (layered [.other "filter", .basic [plainTriple "x"]]).build .standard ∧
    (layered [.basic [plainTriple "x"], .basic [plainTriple "y"]]).build .standard =
      (layered [.basic [plainTriple "x", plainTriple "y"]]).build .standard ∧
    (layered [.optional [.basic [plainTriple "x"]]]).build .standard =
      (layered [.optional [.optional [.basic [plainTriple "x"]]]]).build .standard ∧
    (layered [.graph (.var "h") [.basic [plainTriple "x"]]]).build .standard =
      (layered [.graph (.iri "i") [.graph (.var "h") [.basic [plainTriple "x"]]]]).build .standard := by
  have hfirst : ∀ p new rest, Pattern.Regroups p new →
      (layered (new ++ rest)).build .standard = (layered (p :: rest)).build .standard := by
    intro p new rest h
    exact build_replaceAt (q := layered (p :: rest)) (a := [1, 1, 0, 0, 1, 0, 0]) rfl h .standard
  refine ⟨?_, ?_, ?_, ?_, ?_⟩
  · exact hfirst _ [.basic [plainTriple "x"]] [] (.group _)
  · exact hfirst _ [] [.basic [plainTriple "x"]] (.other _)
  · exact hfirst _ [.basic [plainTriple "x"], .basic [plainTriple "y"]] []
      (.basic [[plainTriple "x"], [plainTriple "y"]])
  · exact hfirst _ [.optional [.basic [plainTriple "x"]]] [] (.optional _)
  · exact hfirst _ [.graph (.var "h") [.basic [plainTriple "x"]]] [] (.graph _ _ _)

end Query

end QueryGraph
