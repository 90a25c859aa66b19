import Mathlib.Data.List.Basic
import QueryGraph.Proofs.Tree.Flatten

/-!
# `Proofs.Tree.Chains` — telling unions apart by branch chains

A reader of the flattened triples sees of the tree only the chain of union branches around each of
them. The chains still tell the unions apart. Each entry of a chain belongs to a union pattern on the
way to the triple, what stands before the entry is the chain of that pattern itself (`chainAt_split`),
and a union that comes later in the preorder has a larger number (`unionsBefore_lt`). So an equal number
is the same pattern, reached by the same chain, and everything else is a matter of comparing addresses.

## Contents
- `prefix_of_lt_of_le`, `lt_append_cons` — addresses between a pattern and something inside it.
- `ancestors_append_cons`, `mem_ancestors` — the patterns around an address, by prefixes.
- `countP_lt_countP`, `unionsBefore_lt`, `eq_of_unionsBefore_eq` — numbers of unions.
- `chainAt`, `mem_chainAt`, `chainAt_split` — the chain of an address.
- `PartAtUnion`, `Parts`, `ToldApart` — what two chains tell.
- `flatten_toldApart` — the main statement.
-/

namespace QueryGraph

/-! ## Addresses -/

/-- An address comes before everything below it. -/
theorem lt_append_cons (c : Address) (b : Nat) (rest : Address) : c < c ++ b :: rest := by
  have hlt : ([] : Address) < b :: rest := List.nil_lt_cons b rest
  have hbelow : c ++ [] < c ++ b :: rest := List.append_left_lt hlt
  rwa [List.append_nil] at hbelow

/-- What comes between an address and something below it is below it too. -/
theorem prefix_of_lt_of_le {c d t : Address} (hct : c <+: t) (hcd : c < d) (hdt : ¬ t < d) :
    c <+: d := by
  induction c generalizing d t with
  | nil => exact List.nil_prefix
  | cons i c ih =>
      obtain ⟨rest, rfl⟩ := hct
      cases d with
      | nil => exact absurd hcd (List.not_lt_nil _)
      | cons j d =>
          rw [List.cons_append, List.cons_lt_cons_iff] at hdt
          rcases List.cons_lt_cons_iff.mp hcd with hij | ⟨rfl, hlt⟩
          · exact absurd (Or.inl hij) hdt
          · exact List.cons_prefix_cons.mpr
              ⟨rfl, ih (List.prefix_append c rest) hlt fun h => hdt (Or.inr ⟨rfl, h⟩)⟩

/-! ## Patterns around an address -/

/-- The pattern around an address at its prefix of the given length. -/
def ancestorAt? (ps : List Pattern) (a : Address) (n : Nat) : Option Ancestor :=
  (patternAt ps (a.take n)).bind fun p => (a[n]?).map fun b => ⟨a.take n, p, b⟩

theorem ancestors_eq (ps : List Pattern) (a : Address) :
    ancestors ps a = (List.range a.length).filterMap (ancestorAt? ps a) := rfl

theorem ancestorAt?_append (ps : List Pattern) (c rest : Address) {n : Nat} (hn : n < c.length) :
    ancestorAt? ps (c ++ rest) n = ancestorAt? ps c n := by
  rw [ancestorAt?, ancestorAt?, List.take_append_of_le_length (Nat.le_of_lt hn),
    List.getElem?_append_left hn]

/-- The patterns around an address are those around a prefix, then the one at the prefix, then more. -/
theorem ancestors_append_cons {ps : List Pattern} {c : Address} {p : Pattern}
    (hp : patternAt ps c = some p) (b : Nat) (rest : Address) :
    ∃ cs, ancestors ps (c ++ b :: rest) = ancestors ps c ++ ⟨c, p, b⟩ :: cs := by
  have hfront : (List.range c.length).filterMap (ancestorAt? ps (c ++ b :: rest)) =
      ancestors ps c :=
    List.filterMap_congr fun n hn => ancestorAt?_append ps c _ (List.mem_range.mp hn)
  have hself : ancestorAt? ps (c ++ b :: rest) c.length = some ⟨c, p, b⟩ := by
    simp [ancestorAt?, hp]
  rw [ancestors_eq, List.length_append, List.length_cons, List.range_add, List.filterMap_append,
    hfront, List.range_succ_eq_map, List.map_cons, Nat.add_zero, List.filterMap_cons, hself]
  exact ⟨_, rfl⟩

theorem ancestorAt?_eq_some_iff {ps : List Pattern} {a : Address} {n : Nat} {c : Ancestor} :
    ancestorAt? ps a n = some c ↔
      c.address = a.take n ∧ patternAt ps c.address = some c.pattern ∧ a[n]? = some c.branch := by
  obtain ⟨d, p, b⟩ := c
  simp only [ancestorAt?, Option.bind_eq_some_iff, Option.map_eq_some_iff, Ancestor.mk.injEq]
  constructor
  · rintro ⟨p', hp, b', hb, rfl, rfl, rfl⟩
    exact ⟨rfl, hp, hb⟩
  · rintro ⟨rfl, hp, hb⟩
    exact ⟨p, hp, b, hb, rfl, rfl, rfl⟩

theorem mem_ancestors {ps : List Pattern} {a : Address} {c : Ancestor} :
    c ∈ ancestors ps a ↔ patternAt ps c.address = some c.pattern ∧ c.address ++ [c.branch] <+: a := by
  constructor
  · intro hc
    obtain ⟨n, -, hfound⟩ := List.mem_filterMap.mp hc
    obtain ⟨haddress, hp, hb⟩ := ancestorAt?_eq_some_iff.mp hfound
    obtain ⟨hlt, hbranch⟩ := List.getElem?_eq_some_iff.mp hb
    refine ⟨hp, ?_⟩
    rw [haddress, ← hbranch, List.take_append_getElem]
    exact List.take_prefix _ _
  · rintro ⟨hp, rest, rfl⟩
    obtain ⟨cs, hcs⟩ := ancestors_append_cons hp c.branch rest
    rw [List.append_assoc, List.singleton_append, hcs]
    exact List.mem_append_right _ List.mem_cons_self

/-- The way down goes from address to address. -/
theorem pairwise_ancestors (ps : List Pattern) (a : Address) :
    (ancestors ps a).Pairwise fun c d => c.address < d.address := by
  rw [ancestors_eq, List.pairwise_filterMap]
  refine List.pairwise_lt_range.imp fun hmn c hc d hd => ?_
  obtain ⟨hcaddress, -, hcb⟩ := ancestorAt?_eq_some_iff.mp hc
  obtain ⟨hdaddress, -, -⟩ := ancestorAt?_eq_some_iff.mp hd
  obtain ⟨hlt, -⟩ := List.getElem?_eq_some_iff.mp hcb
  obtain ⟨rest, hrest⟩ := List.take_prefix_take_left (l := a) (Nat.succ_le_of_lt hmn)
  rw [hcaddress, hdaddress, ← hrest, ← List.take_append_getElem hlt, List.append_assoc]
  exact lt_append_cons _ _ _

/-! ## Numbers of unions -/

/-- More is counted where everything counted before still is, and one thing more. -/
theorem countP_lt_countP {α : Type} {p q : α → Bool} {xs : List α} {x : α}
    (hpq : ∀ y ∈ xs, p y = true → q y = true) (hx : x ∈ xs) (hp : p x = false) (hq : q x = true) :
    xs.countP p < xs.countP q := by
  obtain ⟨front, back, rfl⟩ := List.append_of_mem hx
  have hfront : front.countP p ≤ front.countP q :=
    List.countP_mono_left fun y hy => hpq y (List.mem_append_left _ hy)
  have hback : back.countP p ≤ back.countP q :=
    List.countP_mono_left fun y hy => hpq y (List.mem_append_right _ (List.mem_cons_of_mem x hy))
  rw [List.countP_append, List.countP_append, List.countP_cons_of_neg (by simp [hp]),
    List.countP_cons_of_pos hq]
  omega

/-- **A union has a smaller number than the unions after it.** -/
theorem unionsBefore_lt {ps : List Pattern} {c d : Address} {bs : List (List Pattern)}
    (hc : patternAt ps c = some (.union bs)) (h : c < d) : unionsBefore ps c < unionsBefore ps d := by
  refine countP_lt_countP ?_ (mem_preorder.mpr hc) ?_ ?_
  · -- Whatever comes before the union comes before `d`.
    intro x _ hx
    simp only [Bool.and_eq_true, decide_eq_true_eq] at hx ⊢
    exact ⟨hx.1, List.lt_trans hx.2 h⟩
  · simp
  · simp [h]

/-- **Unions are known by their numbers.** -/
theorem eq_of_unionsBefore_eq {ps : List Pattern} {c d : Address} {bs ds : List (List Pattern)}
    (hc : patternAt ps c = some (.union bs)) (hd : patternAt ps d = some (.union ds))
    (h : unionsBefore ps c = unionsBefore ps d) : c = d := by
  have hcd : ¬ c < d := fun hlt => Nat.ne_of_lt (unionsBefore_lt hc hlt) h
  have hdc : ¬ d < c := fun hlt => Nat.ne_of_gt (unionsBefore_lt hd hlt) h
  exact (List.le_iff_lt_or_eq.mp (List.not_lt.mp hdc)).resolve_left hcd

/-! ## Chains -/

/-- The union branches around an address, the outermost first. -/
def chainAt (ps : List Pattern) (a : Address) : List BranchRef := (scopeAt ps a).branches

theorem branchRef?_eq_some_iff {ps : List Pattern} {c : Ancestor} {u b : Nat} :
    c.branchRef? ps = some ⟨u, b⟩ ↔
      (∃ bs, c.pattern = .union bs) ∧ unionsBefore ps c.address = u ∧ c.branch = b := by
  obtain ⟨a, p, b'⟩ := c
  cases p <;> simp [Ancestor.branchRef?]

/-- **The chain of an address** has an entry for each union on the way and the branch the way goes
through. -/
theorem mem_chainAt {ps : List Pattern} {a : Address} {u b : Nat} :
    ⟨u, b⟩ ∈ chainAt ps a ↔
      ∃ c bs, patternAt ps c = some (.union bs) ∧ unionsBefore ps c = u ∧ c ++ [b] <+: a := by
  rw [chainAt, scopeAt, List.mem_filterMap]
  constructor
  · rintro ⟨c, hc, href⟩
    obtain ⟨hp, hway⟩ := mem_ancestors.mp hc
    obtain ⟨⟨bs, hbs⟩, hu, rfl⟩ := branchRef?_eq_some_iff.mp href
    exact ⟨c.address, bs, hbs ▸ hp, hu, hway⟩
  · rintro ⟨c, bs, hp, hu, hway⟩
    exact ⟨⟨c, .union bs, b⟩, mem_ancestors.mpr ⟨hp, hway⟩,
      branchRef?_eq_some_iff.mpr ⟨⟨bs, rfl⟩, hu, rfl⟩⟩

/-- The chain below a union starts with the chain of the union and its own entry. -/
theorem chainAt_append_cons {ps : List Pattern} {c : Address} {bs : List (List Pattern)}
    (hp : patternAt ps c = some (.union bs)) (b : Nat) (rest : Address) :
    ∃ cs, chainAt ps (c ++ b :: rest) = chainAt ps c ++ ⟨unionsBefore ps c, b⟩ :: cs := by
  obtain ⟨cs, hcs⟩ := ancestors_append_cons hp b rest
  have href : Ancestor.branchRef? ps ⟨c, .union bs, b⟩ = some ⟨unionsBefore ps c, b⟩ := rfl
  rw [chainAt, scopeAt, hcs, List.filterMap_append, List.filterMap_cons, href]
  exact ⟨_, rfl⟩

/-- **The numbers in a chain grow.** -/
theorem pairwise_chainAt (ps : List Pattern) (a : Address) :
    (chainAt ps a).Pairwise fun r s => r.union < s.union := by
  rw [chainAt, scopeAt, List.pairwise_filterMap]
  refine (pairwise_ancestors ps a).imp_of_mem fun hc hd hlt => ?_
  rintro ⟨u, b⟩ hr ⟨v, b'⟩ hs
  obtain ⟨⟨bs, hbs⟩, rfl, -⟩ := branchRef?_eq_some_iff.mp hr
  obtain ⟨-, rfl, -⟩ := branchRef?_eq_some_iff.mp hs
  exact unionsBefore_lt (hbs ▸ (mem_ancestors.mp hc).1) hlt

/-- **What stands before an entry of a chain** is the chain of the union that the entry belongs to. -/
theorem chainAt_split {ps : List Pattern} {a : Address} {front back : List BranchRef} {u b : Nat}
    (h : chainAt ps a = front ++ ⟨u, b⟩ :: back) :
    ∃ c bs, patternAt ps c = some (.union bs) ∧ unionsBefore ps c = u ∧ c ++ [b] <+: a ∧
      front = chainAt ps c := by
  obtain ⟨c, bs, hp, rfl, hway⟩ := mem_chainAt.mp (h ▸ List.mem_append_right _ List.mem_cons_self)
  refine ⟨c, bs, hp, rfl, hway, ?_⟩
  obtain ⟨rest, rfl⟩ := hway
  rw [List.append_assoc, List.singleton_append] at h
  obtain ⟨cs, hcs⟩ := chainAt_append_cons hp b rest
  -- The entry stands only once in the chain, since the numbers grow.
  have hgrow := pairwise_chainAt ps (c ++ b :: rest)
  rw [h, List.pairwise_append, List.pairwise_cons] at hgrow
  have hfront : ⟨unionsBefore ps c, b⟩ ∉ front :=
    fun hmem => Nat.lt_irrefl _ (hgrow.2.2 _ hmem _ List.mem_cons_self)
  have hback : ⟨unionsBefore ps c, b⟩ ∉ back := fun hmem => Nat.lt_irrefl _ (hgrow.2.1.1 _ hmem)
  exact ((List.append_cons_inj_of_notMem hfront hback).mp (h.symm.trans hcs)).1

/-! ## What two chains tell -/

/-- The ways to two addresses part at a union: they go through different branches of it. -/
def PartAtUnion (ps : List Pattern) (a a' : Address) : Prop :=
  ∃ c bs b b', patternAt ps c = some (.union bs) ∧ c ++ [b] <+: a ∧ c ++ [b'] <+: a' ∧ b ≠ b'

/-- Two chains have different branches of the union with the given number. -/
def Parts (cs ds : List BranchRef) (u : Nat) : Prop :=
  ∃ b b', ⟨u, b⟩ ∈ cs ∧ ⟨u, b'⟩ ∈ ds ∧ b ≠ b'

/-- One entry of a chain before another: it belongs to an earlier union, or to an earlier branch of the
same. -/
def BranchRef.Before (r s : BranchRef) : Prop :=
  r.union < s.union ∨ r.union = s.union ∧ r.branch < s.branch

/-- **What the chains of two addresses tell**, when the first does not come after the second. -/
structure ToldApart (ps : List Pattern) (a a' : Address) (cs ds : List BranchRef) : Prop where
  /-- The numbers in a chain grow. -/
  increasing : cs.Pairwise (fun r s => r.union < s.union) ∧ ds.Pairwise fun r s => r.union < s.union
  /-- Before a union that is in both, the chains are the same. -/
  same_before : ∀ u b b' front front' back back', cs = front ++ ⟨u, b⟩ :: back →
    ds = front' ++ ⟨u, b'⟩ :: back' → front = front'
  /-- Some union is in both with different branches exactly when the ways part at a union. -/
  parts_iff : (∃ u, Parts cs ds u) ↔ PartAtUnion ps a a'
  /-- There is at most one such union. -/
  parts_unique : ∀ u v, Parts cs ds u → Parts cs ds v → u = v
  /-- Where the chains first differ, the first one has the smaller entry. -/
  smaller : ∀ front r s back back', cs = front ++ r :: back → ds = front ++ s :: back' → r ≠ s →
    r.Before s

section TwoAddresses

variable {ps : List Pattern} {a a' : Address}

/-- What is above both addresses is above the place where their ways part. -/
theorem prefix_of_parting {c d : Address} {b b' : Nat} (hb : c ++ [b] <+: a) (hb' : c ++ [b'] <+: a')
    (hne : b ≠ b') (hd : d <+: a) (hd' : d <+: a') : d <+: c := by
  rcases List.prefix_or_prefix_of_prefix hd hb with hdown | hup
  · refine (List.prefix_concat_iff.mp hdown).resolve_left fun heq => hne ?_
    subst heq
    simpa using List.prefix_of_prefix_length_le hd' hb' (by simp)
  · refine absurd ?_ hne
    simpa using List.prefix_of_prefix_length_le (hup.trans hd') hb' (by simp)

/-- **Ways part at one place only.** -/
theorem eq_of_parting {c d : Address} {b b' e e' : Nat} (hb : c ++ [b] <+: a) (hb' : c ++ [b'] <+: a')
    (hne : b ≠ b') (he : d ++ [e] <+: a) (he' : d ++ [e'] <+: a') (hne' : e ≠ e') : c = d := by
  have habove : ∀ {c : Address} {b : Nat} {a : Address}, c ++ [b] <+: a → c <+: a :=
    fun h => (List.prefix_append _ _).trans h
  have hcd := prefix_of_parting he he' hne' (habove hb) (habove hb')
  have hdc := prefix_of_parting hb hb' hne (habove he) (habove he')
  exact hcd.eq_of_length (Nat.le_antisymm hcd.length_le hdc.length_le)

/-- A union that two chains have with different branches is where the ways part. -/
theorem parts_chainAt_iff {u : Nat} :
    Parts (chainAt ps a) (chainAt ps a') u ↔
      ∃ c bs b b', patternAt ps c = some (.union bs) ∧ unionsBefore ps c = u ∧ c ++ [b] <+: a ∧
        c ++ [b'] <+: a' ∧ b ≠ b' := by
  constructor
  · rintro ⟨b, b', hb, hb', hne⟩
    obtain ⟨c, bs, hc, hcu, hway⟩ := mem_chainAt.mp hb
    obtain ⟨d, ds, hd, hdu, hway'⟩ := mem_chainAt.mp hb'
    obtain rfl := eq_of_unionsBefore_eq hc hd (hcu.trans hdu.symm)
    exact ⟨c, bs, b, b', hc, hcu, hway, hway', hne⟩
  · rintro ⟨c, bs, b, b', hc, hcu, hway, hway', hne⟩
    exact ⟨b, b', mem_chainAt.mpr ⟨c, bs, hc, hcu, hway⟩, mem_chainAt.mpr ⟨c, bs, hc, hcu, hway'⟩, hne⟩

/-- **Where the chains of two addresses first differ**, that of the earlier address is smaller. -/
theorem before_of_chainAt_split (hle : ¬ a' < a) {front back back' : List BranchRef}
    {r s : BranchRef} (hcs : chainAt ps a = front ++ r :: back)
    (hds : chainAt ps a' = front ++ s :: back') (hne : r ≠ s) : r.Before s := by
  obtain ⟨u, b⟩ := r
  obtain ⟨v, b'⟩ := s
  obtain ⟨c, bs, hc, rfl, hway, hcfront⟩ := chainAt_split hcs
  obtain ⟨d, ds, hd, rfl, hway', hdfront⟩ := chainAt_split hds
  obtain ⟨rest, rfl⟩ := hway
  obtain ⟨rest', rfl⟩ := hway'
  simp only [List.append_assoc, List.singleton_append] at hle
  by_cases hu : unionsBefore ps c = unionsBefore ps d
  · obtain rfl := eq_of_unionsBefore_eq hc hd hu
    have hbb' : b ≠ b' := fun h => hne (by rw [h])
    have hnot : ¬ b' < b := fun hlt =>
      hle (List.append_left_lt (List.cons_lt_cons_iff.mpr (Or.inl hlt)))
    exact Or.inr ⟨rfl, Nat.lt_of_le_of_ne (Nat.not_lt.mp hnot) hbb'⟩
  · -- Were the second union earlier it would be around the first, and the fronts would differ.
    have hnot : ¬ d < c := by
      intro hdc
      have hca := lt_append_cons c b rest
      obtain ⟨below, hbelow⟩ := prefix_of_lt_of_le (List.prefix_append d (b' :: rest')) hdc
        fun hlt => hle (List.lt_trans hlt hca)
      cases below with
      | nil => exact hu (by rw [← hbelow, List.append_nil])
      | cons e below =>
          obtain ⟨es, hes⟩ := chainAt_append_cons hd e below
          have hlength := congrArg List.length (hes.symm.trans (hbelow ▸ hcfront.symm.trans hdfront))
          simp at hlength
    have hcd : c ≠ d := fun h => hu (by rw [h])
    exact Or.inl (unionsBefore_lt hc ((List.le_iff_lt_or_eq.mp (List.not_lt.mp hnot)).resolve_right hcd))

theorem toldApart_chainAt (hle : ¬ a' < a) : ToldApart ps a a' (chainAt ps a) (chainAt ps a') where
  increasing := ⟨pairwise_chainAt ps a, pairwise_chainAt ps a'⟩
  same_before := by
    intro u b b' front front' back back' hcs hds
    obtain ⟨c, bs, hc, hcu, -, rfl⟩ := chainAt_split hcs
    obtain ⟨d, ds, hd, hdu, -, rfl⟩ := chainAt_split hds
    rw [eq_of_unionsBefore_eq hc hd (hcu.trans hdu.symm)]
  parts_iff := by
    simp only [parts_chainAt_iff]
    constructor
    · rintro ⟨u, c, bs, b, b', hc, -, hway⟩
      exact ⟨c, bs, b, b', hc, hway⟩
    · rintro ⟨c, bs, b, b', hc, hway⟩
      exact ⟨_, c, bs, b, b', hc, rfl, hway⟩
  parts_unique := by
    intro u v hu hv
    obtain ⟨c, -, b, b', -, rfl, hb, hb', hne⟩ := parts_chainAt_iff.mp hu
    obtain ⟨d, -, e, e', -, rfl, he, he', hne'⟩ := parts_chainAt_iff.mp hv
    rw [eq_of_parting hb hb' hne he he' hne']
  smaller := fun _ _ _ _ _ => before_of_chainAt_split hle

end TwoAddresses

/-! ## The chains of the flattened triples -/

/-- **Branch chains tell the unions of a tree apart.** The entries of the flattened tree are the triples
at its places, and for two of them, the first before the second, the chains keep to `ToldApart`. -/
theorem flatten_toldApart (ps : List Pattern) {i j : Nat} (hij : i < j) {x y : ScopedTriple}
    (hx : (flatten ps)[i]? = some x) (hy : (flatten ps)[j]? = some y) :
    ∃ p q : Place, (places ps)[i]? = some p ∧ (places ps)[j]? = some q ∧
      p.triple = x.triple ∧ q.triple = y.triple ∧
      ToldApart ps p.address q.address x.scope.branches y.scope.branches := by
  rw [flatten_eq, List.getElem?_map, Option.map_eq_some_iff] at hx hy
  obtain ⟨p, hp, rfl⟩ := hx
  obtain ⟨q, hq, rfl⟩ := hy
  refine ⟨p, q, hp, hq, rfl, rfl, toldApart_chainAt ?_⟩
  obtain ⟨hi, rfl⟩ := List.getElem?_eq_some_iff.mp hp
  obtain ⟨hj, rfl⟩ := List.getElem?_eq_some_iff.mp hq
  rcases List.pairwise_iff_getElem.mp (pairwise_places ps) i j hi hj hij with hlt | ⟨heq, -⟩
  · exact List.lt_asymm hlt
  · rw [heq]
    exact List.lt_irrefl _

/-- A union without branches, and one with a union inside its first branch. -/
def nestedUnions : List Pattern :=
  let leaf : Pattern := .basic [⟨.var "x", .term (.iri "p"), .var "y"⟩]
  [.union [], .union [[leaf, .union [[leaf], [leaf]]], [leaf]]]

/-- The second and the third triple stand in different branches of the inner union, number 2, and nowhere
else do their ways part. -/
theorem toldApart_nestedUnions :
    (flatten nestedUnions).map (fun x => x.scope.branches) =
      [[⟨1, 0⟩], [⟨1, 0⟩, ⟨2, 0⟩], [⟨1, 0⟩, ⟨2, 1⟩], [⟨1, 1⟩]] ∧
    PartAtUnion nestedUnions [1, 0, 1, 0, 0] [1, 0, 1, 1, 0] ∧
    ∀ u, Parts [⟨1, 0⟩, ⟨2, 0⟩] [⟨1, 0⟩, ⟨2, 1⟩] u → u = 2 := by
  obtain ⟨p, q, hp, hq, -, -, htold⟩ :=
    flatten_toldApart nestedUnions (i := 1) (j := 2) (by decide) rfl rfl
  obtain rfl := Option.some.inj hp
  obtain rfl := Option.some.inj hq
  have hparts : Parts [⟨1, 0⟩, ⟨2, 0⟩] [⟨1, 0⟩, ⟨2, 1⟩] 2 := ⟨0, 1, by simp, by simp, by decide⟩
  exact ⟨rfl, htold.parts_iff.mp ⟨2, hparts⟩, fun u hu => htold.parts_unique u 2 hu hparts⟩

end QueryGraph
