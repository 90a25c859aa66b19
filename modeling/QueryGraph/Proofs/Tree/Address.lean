import Mathlib.Algebra.GroupWithZero.Nat
import QueryGraph.Graph.Scope

/-!
# `Proofs.Tree.Address` — places in a tree of patterns

A pattern of a WHERE tree is named by its **address**: which pattern of the list, then which list
inside that pattern, then which pattern of that list, and so on down. Addresses are compared like
words, so a pattern comes before the patterns inside it, and these come before its right neighbour:
the lexicographic order of the addresses *is* the preorder of the tree.

## Contents
- `Pattern.children`, `patternAt` — the lists inside a pattern, and the pattern at an address.
- `forest_induction` — induction from the lists inside the patterns of a list to the list.
- `numberedFrom` — entries of several lists side by side; how membership, order and counting go.
- `preorder` — all patterns of a tree with their addresses: each of them (`mem_preorder`), in order
  and hence once (`pairwise_preorder`).
-/

namespace QueryGraph

/-! ## Patterns and what is inside them -/

/-- Where a pattern stands in a tree of patterns. -/
abbrev Address := List Nat

namespace Pattern

/-- The lists of patterns inside a pattern: one for each branch of a union, one for a block. -/
def children : Pattern → List (List Pattern)
  | .optional ps | .group ps | .graph _ ps => [ps]
  | .union bs => bs
  | .basic _ | .other _ => []

/-- The triples that stand in a pattern itself. -/
@[simp] def triples : Pattern → List Triple
  | .basic ts => ts
  | .optional _ | .union _ | .group _ | .graph .. | .other _ => []

/-- Whether a pattern is an OPTIONAL block. -/
@[simp] def isOptional : Pattern → Bool
  | .optional _ => true
  | .basic _ | .union _ | .group _ | .graph .. | .other _ => false

/-- Whether a pattern is a union. -/
@[simp] def isUnion : Pattern → Bool
  | .union _ => true
  | .basic _ | .optional _ | .group _ | .graph .. | .other _ => false

/-- The name of a GRAPH block. -/
@[simp] def graphName? : Pattern → Option Term
  | .graph name _ => some name
  | .basic _ | .optional _ | .union _ | .group _ | .other _ => none

/-- The kind of a pattern that is not drawn. -/
@[simp] def otherKind? : Pattern → Option String
  | .other kind => some kind
  | .basic _ | .optional _ | .union _ | .group _ | .graph .. => none

theorem sizeOf_lt_of_mem_children {p : Pattern} {ps : List Pattern} (h : ps ∈ p.children) :
    sizeOf ps < sizeOf p := by
  cases p with
  | basic ts => simp [children] at h
  | optional qs =>
      obtain rfl := List.mem_singleton.mp h
      simp only [Pattern.optional.sizeOf_spec]
      omega
  | union bs =>
      have hlt := List.sizeOf_lt_of_mem (show ps ∈ bs from h)
      simp only [Pattern.union.sizeOf_spec]
      omega
  | group qs =>
      obtain rfl := List.mem_singleton.mp h
      simp only [Pattern.group.sizeOf_spec]
      omega
  | graph name qs =>
      obtain rfl := List.mem_singleton.mp h
      simp only [Pattern.graph.sizeOf_spec]
      omega
  | other kind => simp [children] at h

theorem sizeOf_lt_of_mem_child {p q : Pattern} {ps : List Pattern} (hps : ps ∈ p.children)
    (hq : q ∈ ps) : sizeOf q < sizeOf p :=
  Nat.lt_trans (List.sizeOf_lt_of_mem hq) (sizeOf_lt_of_mem_children hps)

end Pattern

/-- The pattern at an address. -/
def patternAt : List Pattern → Address → Option Pattern
  | _, [] => none
  | ps, [i] => ps[i]?
  | ps, i :: b :: rest =>
    ((ps[i]?).bind fun p => p.children[b]?).bind fun qs => patternAt qs rest

/-- **Induction on the nesting.** What holds of a list as soon as it holds of all lists inside its
patterns holds of every list. -/
theorem forest_induction {motive : List Pattern → Prop}
    (step : ∀ ps, (∀ p ∈ ps, ∀ qs ∈ p.children, motive qs) → motive ps) (ps : List Pattern) :
    motive ps :=
  step ps fun p hp qs hqs =>
    have := List.sizeOf_lt_of_mem hp
    have := Pattern.sizeOf_lt_of_mem_children hqs
    forest_induction step qs
termination_by sizeOf ps

theorem patternAt_cons_cons {ps qs : List Pattern} {p : Pattern} {i b : Nat} (hp : ps[i]? = some p)
    (hq : p.children[b]? = some qs) (rest : Address) :
    patternAt ps (i :: b :: rest) = patternAt qs rest := by
  simp [patternAt, hp, hq]

/-- The pattern at a long address stands in a list inside a pattern of the tree's first level. -/
theorem patternAt_cons_cons_eq_some_iff {ps : List Pattern} {i b : Nat} {rest : Address}
    {q : Pattern} :
    patternAt ps (i :: b :: rest) = some q ↔
      ∃ p qs, ps[i]? = some p ∧ p.children[b]? = some qs ∧ patternAt qs rest = some q := by
  simp only [patternAt, Option.bind_eq_some_iff]
  constructor
  · rintro ⟨qs, ⟨p, hp, hqs⟩, hq⟩
    exact ⟨p, qs, hp, hqs, hq⟩
  · rintro ⟨p, qs, hp, hqs, hq⟩
    exact ⟨qs, ⟨p, hp, hqs⟩, hq⟩

/-! ## Entries of several lists side by side -/

/-- An entry, seen from one level further up. -/
def under (n : Nat) (x : Address × Pattern) : Address × Pattern := (n :: x.1, x.2)

@[simp] theorem under_fst (n : Nat) (x : Address × Pattern) : (under n x).1 = n :: x.1 := rfl

@[simp] theorem under_snd (n : Nat) (x : Address × Pattern) : (under n x).2 = x.2 := rfl

/-- The entries of several lists, each under the number of its list; the first list has number `k`. -/
def numberedFrom (k : Nat) : List (List (Address × Pattern)) → List (Address × Pattern)
  | [] => []
  | es :: rest => es.map (under k) ++ numberedFrom (k + 1) rest

theorem mem_numberedFrom {k : Nat} {lists : List (List (Address × Pattern))}
    {x : Address × Pattern} :
    x ∈ numberedFrom k lists ↔ ∃ i es y, lists[i]? = some es ∧ y ∈ es ∧ x = under (k + i) y := by
  induction lists generalizing k with
  | nil => simp [numberedFrom]
  | cons es rest ih =>
      rw [numberedFrom, List.mem_append, List.mem_map, ih]
      constructor
      · rintro (⟨y, hy, rfl⟩ | ⟨i, fs, y, hi, hy, rfl⟩)
        · exact ⟨0, es, y, rfl, hy, rfl⟩
        · exact ⟨i + 1, fs, y, hi, hy, by rw [Nat.add_assoc, Nat.add_comm 1]⟩
      · rintro ⟨i, fs, y, hi, hy, rfl⟩
        cases i with
        | zero => exact Or.inl ⟨y, Option.some.inj hi ▸ hy, rfl⟩
        | succ i => exact Or.inr ⟨i, fs, y, hi, hy, by rw [Nat.add_assoc, Nat.add_comm 1]⟩

/-- The same for lists that belong to some items, numbered from zero. -/
theorem mem_numberedFrom_map {α : Type} {items : List α} {f : α → List (Address × Pattern)}
    {x : Address × Pattern} :
    x ∈ numberedFrom 0 (items.map f) ↔ ∃ i c y, items[i]? = some c ∧ y ∈ f c ∧ x = under i y := by
  rw [mem_numberedFrom]
  simp only [List.getElem?_map, Option.map_eq_some_iff, Nat.zero_add]
  constructor
  · rintro ⟨i, _, y, ⟨c, hc, rfl⟩, hy, hx⟩
    exact ⟨i, c, y, hc, hy, hx⟩
  · rintro ⟨i, c, y, hc, hy, hx⟩
    exact ⟨i, _, y, ⟨c, hc, rfl⟩, hy, hx⟩

/-- Numbers in front keep sorted lists sorted, and sort them among each other. -/
theorem pairwise_numberedFrom {lists : List (List (Address × Pattern))} (k : Nat)
    (h : ∀ es ∈ lists, es.Pairwise fun x y => x.1 < y.1) :
    (numberedFrom k lists).Pairwise fun x y => x.1 < y.1 := by
  induction lists generalizing k with
  | nil => exact List.Pairwise.nil
  | cons es rest ih =>
      rw [numberedFrom, List.pairwise_append]
      refine ⟨?_, ih (k + 1) fun fs hfs => h fs (List.mem_cons_of_mem _ hfs), ?_⟩
      · rw [List.pairwise_map]
        refine (h es List.mem_cons_self).imp fun hxy => ?_
        exact List.cons_lt_cons_iff.mpr (Or.inr ⟨rfl, hxy⟩)
      · intro x hx y hy
        obtain ⟨x', -, rfl⟩ := List.mem_map.mp hx
        obtain ⟨i, fs, y', -, -, rfl⟩ := mem_numberedFrom.mp hy
        exact List.cons_lt_cons_iff.mpr (Or.inl (by omega))

/-- How many unions there are among some entries. -/
def unionsIn (es : List (Address × Pattern)) : Nat := es.countP fun x => x.2.isUnion

/-- How many unions there are among some entries before an address. -/
def unionsInBefore (es : List (Address × Pattern)) (a : Address) : Nat :=
  es.countP fun x => x.2.isUnion && decide (x.1 < a)

theorem unionsIn_map_under (k : Nat) (es : List (Address × Pattern)) :
    unionsIn (es.map (under k)) = unionsIn es := by
  simp only [unionsIn, List.countP_map]
  rfl

theorem unionsIn_append (es fs : List (Address × Pattern)) :
    unionsIn (es ++ fs) = unionsIn es + unionsIn fs := List.countP_append

theorem unionsInBefore_append (es fs : List (Address × Pattern)) (a : Address) :
    unionsInBefore (es ++ fs) a = unionsInBefore es a + unionsInBefore fs a := List.countP_append

theorem unionsIn_numberedFrom (k : Nat) (lists : List (List (Address × Pattern))) :
    unionsIn (numberedFrom k lists) = (lists.map unionsIn).sum := by
  induction lists generalizing k with
  | nil => rfl
  | cons es rest ih =>
      rw [numberedFrom, unionsIn_append, unionsIn_map_under, ih, List.map_cons, List.sum_cons]

/-- Nothing comes before an address that starts with a smaller number. -/
theorem unionsInBefore_numberedFrom_of_lt {n k : Nat} (h : n < k)
    (lists : List (List (Address × Pattern))) (a : Address) :
    unionsInBefore (numberedFrom k lists) (n :: a) = 0 := by
  rw [unionsInBefore, List.countP_eq_zero]
  intro x hx
  obtain ⟨i, es, y, -, -, rfl⟩ := mem_numberedFrom.mp hx
  have hnot : ¬ (k + i) :: y.1 < n :: a := by
    rw [List.cons_lt_cons_iff]
    omega
  simp [hnot]

theorem unionsInBefore_map_under_of_lt {n k : Nat} (h : k < n) (es : List (Address × Pattern))
    (a : Address) : unionsInBefore (es.map (under k)) (n :: a) = unionsIn es := by
  simp only [unionsInBefore, unionsIn, List.countP_map]
  congr 1
  funext x
  have hlt : k :: x.1 < n :: a := List.cons_lt_cons_iff.mpr (Or.inl h)
  simp [hlt]

theorem unionsInBefore_map_under_self (k : Nat) (es : List (Address × Pattern)) (a : Address) :
    unionsInBefore (es.map (under k)) (k :: a) = unionsInBefore es a := by
  simp only [unionsInBefore, List.countP_map]
  congr 1
  funext x
  simp

/-- Before an address that starts with a number come the lists with a smaller number, and what comes
before the rest of the address in the list with this one. -/
theorem unionsInBefore_numberedFrom {k i : Nat} {lists : List (List (Address × Pattern))}
    {es : List (Address × Pattern)} (h : lists[i]? = some es) (a : Address) :
    unionsInBefore (numberedFrom k lists) ((k + i) :: a) =
      ((lists.take i).map unionsIn).sum + unionsInBefore es a := by
  induction lists generalizing k i with
  | nil => simp at h
  | cons fs rest ih =>
      rw [numberedFrom, unionsInBefore_append]
      cases i with
      | zero =>
          obtain rfl : fs = es := Option.some.inj h
          rw [Nat.add_zero, unionsInBefore_map_under_self,
            unionsInBefore_numberedFrom_of_lt (Nat.lt_succ_self k)]
          simp
      | succ i =>
          have hrest := ih (k := k + 1) (show rest[i]? = some es from h)
          rw [unionsInBefore_map_under_of_lt (by omega), ← Nat.add_assoc, Nat.add_right_comm, hrest,
            List.take_succ_cons, List.map_cons, List.sum_cons, Nat.add_assoc]

/-! ## The preorder -/

mutual

/-- The patterns inside a pattern, in preorder; an address starts with the number of a list. -/
def Pattern.inner : Pattern → List (Address × Pattern)
  | .optional ps | .group ps | .graph _ ps => (preorderFrom 0 ps).map (under 0)
  | .union bs => innerBranches 0 bs
  | .basic _ | .other _ => []

/-- The patterns of a list and those inside them, in preorder; the first one has number `k`. -/
def preorderFrom (k : Nat) : List Pattern → List (Address × Pattern)
  | [] => []
  | p :: rest => (([], p) :: p.inner).map (under k) ++ preorderFrom (k + 1) rest

/-- The patterns inside the branches of a union, in preorder; the first branch has number `k`. -/
def innerBranches (k : Nat) : List (List Pattern) → List (Address × Pattern)
  | [] => []
  | ps :: rest => (preorderFrom 0 ps).map (under k) ++ innerBranches (k + 1) rest

end

/-- All patterns of a tree with their addresses, each before the patterns inside it and these before
its right neighbour. -/
def preorder (ps : List Pattern) : List (Address × Pattern) := preorderFrom 0 ps

theorem preorderFrom_eq (k : Nat) (ps : List Pattern) :
    preorderFrom k ps = numberedFrom k (ps.map fun p => ([], p) :: p.inner) := by
  induction ps generalizing k with
  | nil => rfl
  | cons p rest ih =>
      rw [preorderFrom, ih]
      rfl

theorem innerBranches_eq (k : Nat) (bs : List (List Pattern)) :
    innerBranches k bs = numberedFrom k (bs.map preorder) := by
  induction bs generalizing k with
  | nil => rfl
  | cons ps rest ih =>
      rw [innerBranches, ih]
      rfl

theorem Pattern.inner_eq (p : Pattern) : p.inner = numberedFrom 0 (p.children.map preorder) := by
  cases p with
  | basic ts => rfl
  | optional ps => simp [inner, children, numberedFrom, preorder]
  | union bs => rw [inner, innerBranches_eq, children]
  | group ps => simp [inner, children, numberedFrom, preorder]
  | graph name ps => simp [inner, children, numberedFrom, preorder]
  | other kind => rfl

theorem Pattern.mem_inner {p : Pattern} {x : Address × Pattern} :
    x ∈ p.inner ↔ ∃ b qs y, p.children[b]? = some qs ∧ y ∈ preorder qs ∧ x = under b y := by
  rw [inner_eq, mem_numberedFrom_map]

/-- A tree consists of the patterns of its first level and those inside them. -/
theorem mem_preorder_iff {ps : List Pattern} {x : Address × Pattern} :
    x ∈ preorder ps ↔
      ∃ i p, ps[i]? = some p ∧ (x = ([i], p) ∨ ∃ y ∈ p.inner, x = under i y) := by
  rw [preorder, preorderFrom_eq, mem_numberedFrom_map]
  constructor
  · rintro ⟨i, p, y, hp, hy, rfl⟩
    refine ⟨i, p, hp, ?_⟩
    rcases List.mem_cons.mp hy with rfl | hinner
    · exact Or.inl rfl
    · exact Or.inr ⟨y, hinner, rfl⟩
  · rintro ⟨i, p, hp, rfl | ⟨y, hinner, rfl⟩⟩
    · exact ⟨i, p, ([], p), hp, List.mem_cons_self, rfl⟩
    · exact ⟨i, p, y, hp, List.mem_cons_of_mem _ hinner, rfl⟩

/-- **The preorder lists the patterns of the tree**, each at its address, and nothing else. -/
theorem mem_preorder {ps : List Pattern} {a : Address} {q : Pattern} :
    (a, q) ∈ preorder ps ↔ patternAt ps a = some q := by
  induction ps using forest_induction generalizing a q with
  | step ps ih =>
    rw [mem_preorder_iff]
    constructor
    · rintro ⟨i, p, hp, hx | ⟨y, hinner, hx⟩⟩
      · obtain ⟨rfl, rfl⟩ := Prod.mk.inj hx
        exact hp
      · obtain ⟨b, qs, z, hqs, hz, rfl⟩ := Pattern.mem_inner.mp hinner
        obtain ⟨rfl, rfl⟩ := Prod.mk.inj hx
        rw [under_fst, under_snd, patternAt_cons_cons hp hqs]
        exact (ih p (List.mem_of_getElem? hp) qs (List.mem_of_getElem? hqs)).mp hz
    · intro h
      match a, h with
      | [i], h => exact ⟨i, q, h, Or.inl rfl⟩
      | i :: b :: rest, h =>
          obtain ⟨p, qs, hp, hqs, hq⟩ := patternAt_cons_cons_eq_some_iff.mp h
          have hmem := (ih p (List.mem_of_getElem? hp) qs (List.mem_of_getElem? hqs)).mpr hq
          exact ⟨i, p, hp, Or.inr ⟨_, Pattern.mem_inner.mpr ⟨b, qs, _, hqs, hmem, rfl⟩, rfl⟩⟩

/-- **The preorder is the order of the addresses**: no address comes twice. -/
theorem pairwise_preorder (ps : List Pattern) :
    (preorder ps).Pairwise fun x y => x.1 < y.1 := by
  induction ps using forest_induction with
  | step ps ih =>
    rw [preorder, preorderFrom_eq]
    refine pairwise_numberedFrom 0 fun es hes => ?_
    obtain ⟨p, hp, rfl⟩ := List.mem_map.mp hes
    rw [List.pairwise_cons, Pattern.inner_eq]
    refine ⟨fun y hy => ?_, pairwise_numberedFrom 0 fun fs hfs => ?_⟩
    · obtain ⟨i, fs, z, -, -, rfl⟩ := mem_numberedFrom.mp hy
      exact List.nil_lt_cons _ _
    · obtain ⟨qs, hqs, rfl⟩ := List.mem_map.mp hfs
      exact ih p hp qs hqs

end QueryGraph
