import QueryGraph.Proofs.Tree.Address

/-!
# `Proofs.Tree.Ancestors` — what surrounds a place in a tree

The scope of a triple says three things about the way from the root of the tree down to it. Here they
are read off the tree itself, without walking it: the patterns around an address are those at its
proper prefixes, and a union has as its number the count of the unions before it in the preorder.

## Contents
- `ancestors`, `unionsBefore`, `scopeAt` — the patterns around an address, the number of a union, and
  the scope they make.
- `scopeBelow` — the same scope, entered ancestor by ancestor from the outside (`scopeAt_eq`).
- `ancestors_cons_cons`, `unionsBefore_cons_cons`, `scopeBelow_cons_cons` — one level further down.
-/

namespace QueryGraph

/-! ## Reading the scope off the tree -/

/-- A pattern around a place: where it stands, and through which of its lists the way goes on. -/
structure Ancestor where
  address : Address
  pattern : Pattern
  branch : Nat

/-- The patterns around an address, the outermost first: those at its proper prefixes, each with the
number that comes next in the address. -/
def ancestors (ps : List Pattern) (a : Address) : List Ancestor :=
  (List.range a.length).filterMap fun n =>
    (patternAt ps (a.take n)).bind fun p => (a[n]?).map fun b => ⟨a.take n, p, b⟩

/-- How many unions of the tree come before an address in the preorder. -/
def unionsBefore (ps : List Pattern) (a : Address) : Nat := unionsInBefore (preorder ps) a

/-- The branch of a union that the way goes through. -/
def Ancestor.branchRef? (ps : List Pattern) (c : Ancestor) : Option BranchRef :=
  if c.pattern.isUnion then some ⟨unionsBefore ps c.address, c.branch⟩ else none

/-- The scope of an address: whether an OPTIONAL block is around it, the union branches around it, and
the name of the nearest GRAPH block around it. -/
def scopeAt (ps : List Pattern) (a : Address) : Scope where
  optional := (ancestors ps a).any fun c => c.pattern.isOptional
  branches := (ancestors ps a).filterMap (Ancestor.branchRef? ps)
  graph := (ancestors ps a).reverse.findSome? fun c => c.pattern.graphName?

/-! ## Entering the scope from the outside -/

/-- The scope inside a pattern; a union gets the number `union`, and the way goes through its branch
number `branch`. -/
def Pattern.scopeInside (s : Scope) (union branch : Nat) : Pattern → Scope
  | .optional _ => s.insideOptional
  | .union _ => s.insideBranch union branch
  | .graph name _ => s.insideGraph name
  | .basic _ | .group _ | .other _ => s

/-- The scope inside an ancestor, when the unions of the tree are numbered from `u` on. -/
def Ancestor.enter (u : Nat) (ps : List Pattern) (s : Scope) (c : Ancestor) : Scope :=
  c.pattern.scopeInside s (u + unionsBefore ps c.address) c.branch

/-- The scope of an address in a tree that itself stands in scope `s`, with its unions numbered from
`u` on. -/
def scopeBelow (s : Scope) (u : Nat) (ps : List Pattern) (a : Address) : Scope :=
  (ancestors ps a).foldl (Ancestor.enter u ps) s

/-- Entering some ancestors one after the other leaves three independent traces. -/
theorem foldl_enter (ps : List Pattern) (cs : List Ancestor) (s : Scope) :
    cs.foldl (Ancestor.enter 0 ps) s =
      { optional := s.optional || cs.any fun c => c.pattern.isOptional
        branches := s.branches ++ cs.filterMap (Ancestor.branchRef? ps)
        graph := (cs.reverse.findSome? fun c => c.pattern.graphName?).or s.graph } := by
  induction cs generalizing s with
  | nil => simp
  | cons c cs ih =>
      rw [List.foldl_cons, ih]
      obtain ⟨a, p, b⟩ := c
      cases p with
      | optional qs =>
          simp [Ancestor.enter, Pattern.scopeInside, Ancestor.branchRef?, Scope.insideOptional]
      | union bs => simp [Ancestor.enter, Pattern.scopeInside, Ancestor.branchRef?, Scope.insideBranch]
      | graph name qs =>
          simp [Ancestor.enter, Pattern.scopeInside, Ancestor.branchRef?, Scope.insideGraph]
      | basic _ | group _ | other _ =>
          simp [Ancestor.enter, Pattern.scopeInside, Ancestor.branchRef?]

theorem scopeAt_eq (ps : List Pattern) (a : Address) : scopeAt ps a = scopeBelow .root 0 ps a := by
  rw [scopeBelow, foldl_enter]
  simp [scopeAt, Scope.root]

/-! ## One level further down -/

/-- An ancestor inside list number `b` of pattern number `i`, seen from outside. -/
def Ancestor.within (i b : Nat) (c : Ancestor) : Ancestor := { c with address := i :: b :: c.address }

section Descent

variable {ps qs : List Pattern} {p : Pattern} {i b : Nat}

/-- The first ancestor of a long address is the pattern it starts with; the others stand in the list
that it goes on with. -/
theorem ancestors_cons_cons (hp : ps[i]? = some p) (hq : p.children[b]? = some qs)
    (rest : Address) :
    ancestors ps (i :: b :: rest) =
      ⟨[i], p, b⟩ :: (ancestors qs rest).map (Ancestor.within i b) := by
  have hdown : ∀ n, patternAt ps (i :: b :: rest.take n) = patternAt qs (rest.take n) :=
    fun n => patternAt_cons_cons hp hq _
  simp only [ancestors, List.length_cons, List.range_succ_eq_map, List.filterMap_cons,
    List.filterMap_map, List.map_cons, List.map_map]
  simp [patternAt, hp, List.map_filterMap, Function.comp_def, hdown, Ancestor.within]

/-- Before an address come the left neighbours of the pattern it starts with, and then what comes
before the rest of the address in that pattern. -/
theorem unionsBefore_cons (hp : ps[i]? = some p) (a : Address) :
    unionsBefore ps (i :: a) =
      unionsIn (preorder (ps.take i)) + unionsInBefore (([], p) :: p.inner) a := by
  have hlist : (ps.map fun p => (([], p) :: p.inner : List (Address × Pattern)))[i]? =
      some (([], p) :: p.inner) := by
    rw [List.getElem?_map, hp]
    rfl
  have hsplit := unionsInBefore_numberedFrom (k := 0) hlist a
  rw [Nat.zero_add] at hsplit
  rw [unionsBefore, preorder, preorderFrom_eq, hsplit, preorder, preorderFrom_eq,
    unionsIn_numberedFrom, ← List.map_take]

/-- Before a pattern of the tree's first level come its left neighbours. -/
theorem unionsBefore_singleton (hp : ps[i]? = some p) :
    unionsBefore ps [i] = unionsIn (preorder (ps.take i)) := by
  rw [unionsBefore_cons hp]
  simp [unionsInBefore]

/-- Before a deeper pattern come the left neighbours of the one it is inside, that one itself, its
earlier lists, and what comes before in the list where it stands. -/
theorem unionsBefore_cons_cons (hp : ps[i]? = some p) (hq : p.children[b]? = some qs)
    (rest : Address) :
    unionsBefore ps (i :: b :: rest) =
      unionsBefore ps [i] + unionsIn [([], p)]
        + ((p.children.take b).map fun qs => unionsIn (preorder qs)).sum + unionsBefore qs rest := by
  have hlist : (p.children.map preorder)[b]? = some (preorder qs) := by
    rw [List.getElem?_map, hq]
    rfl
  have hinner : unionsInBefore p.inner (b :: rest) =
      ((p.children.take b).map fun qs => unionsIn (preorder qs)).sum + unionsBefore qs rest := by
    have hsplit := unionsInBefore_numberedFrom (k := 0) hlist rest
    rw [Nat.zero_add] at hsplit
    rw [Pattern.inner_eq, hsplit, ← List.map_take, List.map_map, unionsBefore]
    rfl
  have hself : unionsInBefore [([], p)] (b :: rest) = unionsIn [([], p)] := by
    simp [unionsInBefore, unionsIn]
  rw [unionsBefore_cons hp, unionsBefore_singleton hp,
    show ([], p) :: p.inner = [([], p)] ++ p.inner from rfl, unionsInBefore_append, hself, hinner]
  omega

/-- No pattern is around a pattern of the tree's first level. -/
theorem scopeBelow_singleton (s : Scope) (u : Nat) (ps : List Pattern) (i : Nat) :
    scopeBelow s u ps [i] = s := by
  simp [scopeBelow, ancestors, patternAt]

/-- **The scope of a deeper pattern** is that of its address in the list where the first step leads,
when that list stands in the scope inside the pattern passed, and numbers its unions from where the
walk has got. -/
theorem scopeBelow_cons_cons (hp : ps[i]? = some p) (hq : p.children[b]? = some qs) (s : Scope)
    (u : Nat) (rest : Address) :
    scopeBelow s u ps (i :: b :: rest) =
      scopeBelow (p.scopeInside s (u + unionsBefore ps [i]) b)
        (u + unionsBefore ps [i] + unionsIn [([], p)]
          + ((p.children.take b).map fun qs => unionsIn (preorder qs)).sum) qs rest := by
  rw [scopeBelow, ancestors_cons_cons hp hq, List.foldl_cons, List.foldl_map, scopeBelow]
  congr 1
  funext t c
  simp only [Ancestor.enter, Ancestor.within]
  rw [unionsBefore_cons_cons hp hq]
  simp only [Nat.add_assoc]

end Descent

end QueryGraph
