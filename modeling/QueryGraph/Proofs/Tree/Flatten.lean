import QueryGraph.Proofs.Tree.Ancestors

/-!
# `Proofs.Tree.Flatten` — the walk finds every triple, in its scope

The walk carries a scope down and a union counter along. A tree has neither: its triples stand at
addresses, and what surrounds an address can be read off (`scopeAt`). The two agree, for a walk that
starts in any scope and at any count (`walkAll_eq`), because each pattern finds the counter where the
unions before it in the preorder have left it.

## Contents
- `found` — what a walk should leave behind when it passes the given patterns.
- `walkEach`, `walkEach_eq` — a loop of walks; both loops of the walk are of this form.
- `walkAll_eq` — the walk over a tree finds its preorder.
- `Place`, `places` — the triples of a tree, each with its place (`mem_places`, `pairwise_places`).
- `flatten_eq_map_places` — the main statement.
-/

namespace QueryGraph

/-! ## What a walk should find -/

/-- What a walk leaves behind that starts counting at `u` and passes the given patterns in order, when
the scope of each is known. -/
def found (u : Nat) (es : List (Address × Pattern)) (scope : Address → Scope) : Walk where
  unions := u + unionsIn es
  triples := es.flatMap fun x => x.2.triples.map fun t => ⟨t, scope x.1⟩
  skipped := es.filterMap fun x => x.2.otherKind?

theorem found_append (u : Nat) (es fs : List (Address × Pattern)) (scope : Address → Scope) :
    found u (es ++ fs) scope =
      (found u es scope).andThen fun n => found n fs scope := by
  simp [found, Walk.andThen, unionsIn_append, Nat.add_assoc]

theorem found_map_under (u k : Nat) (es : List (Address × Pattern)) (scope : Address → Scope) :
    found u (es.map (under k)) scope = found u es fun a => scope (k :: a) := by
  simp [found, unionsIn_map_under, List.flatMap_map, List.filterMap_map, Function.comp_def]

/-! ## Loops of walks -/

section Loop

variable {α : Type}

/-- One walk after the other, one for each item; the walks are numbered from `k` on. -/
def walkEach (walk : Nat → α → Nat → Walk) (k : Nat) : List α → Nat → Walk
  | [], u => .still u
  | x :: rest, u => (walk k x u).andThen (walkEach walk (k + 1) rest)

/-- **A loop of walks finds what its walks find.** Each of them may count on the unions of the items
before it. -/
theorem walkEach_eq {walk : Nat → α → Nat → Walk} {items : List α} {u : Nat}
    {entries : α → List (Address × Pattern)} {scope : Address → Scope}
    (h : ∀ i x, items[i]? = some x →
      ∀ v, v = u + ((items.take i).map fun x => unionsIn (entries x)).sum →
        walk i x v = found v (entries x) fun a => scope (i :: a)) :
    walkEach walk 0 items u = found u (numberedFrom 0 (items.map entries)) scope := by
  -- The loop stands between the items it has `done` and the `rest`; the counter knows the former.
  have hloop : ∀ rest done v, items = done ++ rest →
      v = u + (done.map fun x => unionsIn (entries x)).sum →
      walkEach walk done.length rest v =
        found v (numberedFrom done.length (rest.map entries)) scope := by
    intro rest
    induction rest with
    | nil => intro done v _ _; rfl
    | cons x rest ih =>
        intro done v hitems hv
        have hx : items[done.length]? = some x := by simp [hitems]
        have htake : items.take done.length = done := by simp [hitems]
        have hwalk := h done.length x hx v (by rw [htake]; exact hv)
        have hnext := ih (done ++ [x]) (v + unionsIn (entries x)) (by simp [hitems])
          (by simp [hv, Nat.add_assoc])
        rw [List.length_append, List.length_singleton] at hnext
        rw [walkEach, hwalk, List.map_cons, numberedFrom, found_append, found_map_under]
        simp only [Walk.andThen]
        rw [show (found v (entries x) fun a => scope (done.length :: a)).unions =
          v + unionsIn (entries x) from rfl, hnext]
  exact hloop items [] u rfl (by simp)

end Loop

theorem walkAll_eq_walkEach (s : Scope) (u k : Nat) (ps : List Pattern) :
    walkAll s u ps = walkEach (fun _ p n => p.walk s n) k ps u := by
  induction ps generalizing u k with
  | nil => rfl
  | cons p rest ih =>
      rw [walkAll, walkEach]
      congr 1
      funext n
      exact ih n (k + 1)

theorem walkBranches_eq_walkEach (s : Scope) (union branch u : Nat) (bs : List (List Pattern)) :
    walkBranches s union branch u bs =
      walkEach (fun b ps n => walkAll (s.insideBranch union b) n ps) branch bs u := by
  induction bs generalizing branch u with
  | nil => rfl
  | cons ps rest ih =>
      rw [walkBranches, walkEach]
      congr 1
      funext n
      exact ih (branch + 1) n

/-- A pattern is walked over by noting what stands in it and walking over the lists inside it. -/
theorem Pattern.walk_eq (p : Pattern) (s : Scope) (u : Nat) :
    p.walk s u = (found u [([], p)] fun _ => s).andThen
      (walkEach (fun b qs n => walkAll (p.scopeInside s u b) n qs) 0 p.children) := by
  cases p with
  | basic ts => simp [walk, found, unionsIn, Walk.andThen, children, walkEach, Walk.still]
  | optional ps => simp [walk, found, unionsIn, Walk.andThen, children, walkEach, Walk.still,
      scopeInside]
  | union bs =>
      rw [walk, walkBranches_eq_walkEach]
      simp [found, unionsIn, Walk.andThen, children, scopeInside]
  | group ps => simp [walk, found, unionsIn, Walk.andThen, children, walkEach, Walk.still,
      scopeInside]
  | graph name ps => simp [walk, found, unionsIn, Walk.andThen, children, walkEach, Walk.still,
      scopeInside]
  | other kind => simp [walk, found, unionsIn, Walk.andThen, children, walkEach, Walk.still]

/-! ## The walk over a tree -/

/-- The unions before a pattern of the first level, counted neighbour by neighbour. -/
theorem unionsBefore_eq_sum {ps : List Pattern} {p : Pattern} {i : Nat} (hp : ps[i]? = some p) :
    unionsBefore ps [i] = ((ps.take i).map fun p => unionsIn (([], p) :: p.inner)).sum := by
  rw [unionsBefore_singleton hp, preorder, preorderFrom_eq, unionsIn_numberedFrom, List.map_map]
  rfl

/-- **The walk over a tree** that stands in scope `s`, from count `u` on, finds its patterns in
preorder and each triple in the scope of its address. -/
theorem walkAll_eq (s : Scope) (u : Nat) (ps : List Pattern) :
    walkAll s u ps = found u (preorder ps) (scopeBelow s u ps) := by
  induction ps using forest_induction generalizing s u with
  | step ps ih =>
    rw [walkAll_eq_walkEach s u 0, preorder, preorderFrom_eq]
    refine walkEach_eq fun i p hp v hv => ?_
    rw [← unionsBefore_eq_sum hp] at hv
    -- The pattern itself stands in scope `s`, and what is inside it at longer addresses.
    have hself : (found v [([], p)] fun a => scopeBelow s u ps (i :: a)) =
        found v [([], p)] fun _ => s := by
      simp [found, scopeBelow_singleton]
    have hinner : walkEach (fun b qs n => walkAll (p.scopeInside s v b) n qs) 0 p.children
          (v + unionsIn [([], p)]) =
        found (v + unionsIn [([], p)]) p.inner fun a => scopeBelow s u ps (i :: a) := by
      rw [Pattern.inner_eq]
      refine walkEach_eq fun b qs hq w hw => ?_
      rw [ih p (List.mem_of_getElem? hp) qs (List.mem_of_getElem? hq), hw, hv]
      congr 1
      funext a
      exact (scopeBelow_cons_cons hp hq s u a).symm
    rw [show ([], p) :: p.inner = [([], p)] ++ p.inner from rfl, found_append, hself, p.walk_eq]
    simp only [Walk.andThen]
    rw [show (found v [([], p)] fun _ => s).unions = v + unionsIn [([], p)] from rfl, hinner]

/-! ## Places of triples -/

/-- A triple of a tree: the address of the pattern where it stands, its number there, and itself. -/
structure Place where
  address : Address
  number : Nat
  triple : Triple

/-- One place before another, reading from left to right. -/
def Place.Before (x y : Place) : Prop :=
  x.address < y.address ∨ x.address = y.address ∧ x.number < y.number

/-- The triples of a tree, each with its place. -/
def places (ps : List Pattern) : List Place :=
  (preorder ps).flatMap fun x => x.2.triples.mapIdx fun n t => ⟨x.1, n, t⟩

theorem Pattern.triples_getElem?_eq_some_iff {p : Pattern} {n : Nat} {t : Triple} :
    p.triples[n]? = some t ↔ ∃ ts, p = .basic ts ∧ ts[n]? = some t := by
  cases p <;> simp

/-- **The places are those of the triples in basic patterns**, and no others. -/
theorem mem_places {ps : List Pattern} {x : Place} :
    x ∈ places ps ↔
      ∃ ts, patternAt ps x.address = some (.basic ts) ∧ ts[x.number]? = some x.triple := by
  obtain ⟨a, n, t⟩ := x
  simp only [places, List.mem_flatMap, List.mem_mapIdx]
  constructor
  · rintro ⟨⟨a', p⟩, hp, m, hm, heq⟩
    obtain ⟨rfl, rfl, rfl⟩ := Place.mk.inj heq
    obtain ⟨ts, rfl, ht⟩ := Pattern.triples_getElem?_eq_some_iff.mp (List.getElem?_eq_getElem hm)
    exact ⟨ts, mem_preorder.mp hp, ht⟩
  · rintro ⟨ts, hp, ht⟩
    obtain ⟨hn, rfl⟩ := List.getElem?_eq_some_iff.mp ht
    exact ⟨(a, .basic ts), mem_preorder.mpr hp, n, hn, rfl⟩

/-- **The places are listed from left to right**, so none is listed twice. -/
theorem pairwise_places (ps : List Pattern) : (places ps).Pairwise Place.Before := by
  rw [places, List.pairwise_flatMap]
  refine ⟨fun x _ => ?_, (pairwise_preorder ps).imp fun hlt => ?_⟩
  · rw [List.pairwise_iff_getElem]
    intro i j hi hj hij
    simp only [List.getElem_mapIdx]
    exact Or.inr ⟨rfl, hij⟩
  · intro y hy z hz
    obtain ⟨i, hi, rfl⟩ := List.mem_mapIdx.mp hy
    obtain ⟨j, hj, rfl⟩ := List.mem_mapIdx.mp hz
    exact Or.inl hlt

/-- The walk over a whole WHERE clause finds the triples at their places. -/
theorem flatten_eq (ps : List Pattern) :
    flatten ps = (places ps).map fun x => ⟨x.triple, scopeAt ps x.address⟩ := by
  rw [flatten, walkWhere, walkAll_eq, places, List.map_flatMap]
  show (preorder ps).flatMap _ = _
  congr 1
  funext x
  rw [← scopeAt_eq]
  apply List.ext_getElem?
  intro n
  rw [List.getElem?_map, List.getElem?_map, List.getElem?_mapIdx, Option.map_map]
  rfl

/-- **Flattening a WHERE tree.** The result has one entry for each place of a triple, from left to
right: the triple there, in the scope that is read off the way from the root. The places are exactly
those of the triples in basic patterns, and the preorder by which `scopeAt` numbers the unions holds
exactly the patterns of the tree, in the order of their addresses. -/
theorem flatten_eq_map_places (ps : List Pattern) :
    flatten ps = (places ps).map (fun x => ⟨x.triple, scopeAt ps x.address⟩) ∧
    (∀ x, x ∈ places ps ↔
      ∃ ts, patternAt ps x.address = some (.basic ts) ∧ ts[x.number]? = some x.triple) ∧
    (places ps).Pairwise Place.Before ∧
    (∀ a p, (a, p) ∈ preorder ps ↔ patternAt ps a = some p) ∧
    (preorder ps).Pairwise (fun x y => x.1 < y.1) :=
  ⟨flatten_eq ps, fun _ => mem_places, pairwise_places ps, fun _ _ => mem_preorder,
    pairwise_preorder ps⟩

/-- A union without branches counts; a union inside a branch comes after the one around it. -/
example (t : Triple) :
    flatten [.union [], .optional [.union [[], [.union [[.basic [t]]]]]]] =
      [⟨t, true, [⟨1, 1⟩, ⟨2, 0⟩], none⟩] := rfl

end QueryGraph
