import QueryGraph.Proofs.Tree.Flatten

/-!
# `Proofs.Tree.Nesting` — how deep a tree is nested

The patterns of a list stand at level 1, and those of a list inside a pattern one level below the
pattern. The walk over a tree calls itself for each of these lists, empty ones included, and for nothing
else: it needs one frame for each level at which there is a list.

## Contents
- `level` — the level at which an address stands.
- `FitsIn` — a tree whose lists stand at so many levels; `level_le_of_fitsIn` — so do its patterns.
- `walkWithin` — the walk with so many frames; `walkWithin_eq` — enough of them for a tree that fits.
-/

namespace QueryGraph

/-! ## Levels -/

/-- The level at which the pattern at an address stands: two steps of an address lead one level down. -/
def level (a : Address) : Nat := (a.length + 1) / 2

theorem level_singleton (i : Nat) : level [i] = 1 := by simp [level]

theorem level_cons_cons (i b : Nat) (rest : Address) : level (i :: b :: rest) = level rest + 1 := by
  simp only [level, List.length_cons]
  omega

/-- The lists of a tree, the given one and those inside patterns, stand at `n` levels at most. -/
def FitsIn : (n : Nat) → List Pattern → Prop
  | 0, _ => False
  | n + 1, ps => ∀ p ∈ ps, ∀ qs ∈ p.children, FitsIn n qs

theorem fitsIn_nil (n : Nat) : FitsIn (n + 1) [] := by
  intro p hp
  exact absurd hp List.not_mem_nil

/-- **In a tree that fits** no pattern stands deeper. -/
theorem level_le_of_fitsIn {n : Nat} {ps : List Pattern} (h : FitsIn n ps) {a : Address} {p : Pattern}
    (ha : patternAt ps a = some p) : level a ≤ n := by
  induction n generalizing ps a with
  | zero => exact absurd h id
  | succ n ih =>
      match a, ha with
      | [i], _ =>
          rw [level_singleton]
          omega
      | i :: b :: rest, ha =>
          obtain ⟨q, qs, hq, hqs, ha⟩ := patternAt_cons_cons_eq_some_iff.mp ha
          have hinside : FitsIn n qs := h q (List.mem_of_getElem? hq) qs (List.mem_of_getElem? hqs)
          have hrest : level rest ≤ n := ih hinside ha
          rw [level_cons_cons]
          omega

/-! ## Walks with a limited number of frames -/

section Loop

variable {α : Type}

/-- A loop of walks, any of which may fail. -/
def walkEachWithin (walk : Nat → α → Nat → Option Walk) (k : Nat) : List α → Nat → Option Walk
  | [], u => some (.still u)
  | x :: rest, u => do
    let first ← walk k x u
    let next ← walkEachWithin walk (k + 1) rest first.unions
    return first.andThen fun _ => next

/-- It does not fail if none of its walks does. -/
theorem walkEachWithin_eq {within : Nat → α → Nat → Option Walk} {walk : Nat → α → Nat → Walk}
    {items : List α} (h : ∀ x ∈ items, ∀ k u, within k x u = some (walk k x u)) (k u : Nat) :
    walkEachWithin within k items u = some (walkEach walk k items u) := by
  induction items generalizing k u with
  | nil => rfl
  | cons x rest ih =>
      have hfirst : within k x u = some (walk k x u) := h x List.mem_cons_self k u
      have hnext := ih (fun y hy => h y (List.mem_cons_of_mem _ hy)) (k + 1) (walk k x u).unions
      rw [walkEachWithin, hfirst, walkEach]
      show (walkEachWithin within (k + 1) rest (walk k x u).unions).bind _ = _
      rw [hnext]
      rfl

end Loop

/-- The walk over a list of patterns with a limited number of frames. It takes one itself and fails if
there is none left. -/
def walkWithin : (frames : Nat) → Scope → Nat → List Pattern → Option Walk
  | 0, _, _, _ => none
  | frames + 1, scope, unions, patterns =>
    walkEachWithin (fun _ p unions =>
      match p with
      | .basic triples => some ⟨unions, triples.map fun t => ⟨t, scope⟩, []⟩
      | .optional ps => walkWithin frames scope.insideOptional unions ps
      | .union branches =>
        walkEachWithin (fun branch ps => (walkWithin frames (scope.insideBranch unions branch) · ps))
          0 branches (unions + 1)
      | .group ps => walkWithin frames scope unions ps
      | .graph name ps => walkWithin frames (scope.insideGraph name) unions ps
      | .other kind => some ⟨unions, [], [kind]⟩) 0 patterns unions

/-- **A tree that fits is walked over** with so many frames. -/
theorem walkWithin_eq {frames : Nat} {ps : List Pattern} (h : FitsIn frames ps) (s : Scope) (u : Nat) :
    walkWithin frames s u ps = some (walkAll s u ps) := by
  induction frames generalizing ps s u with
  | zero => exact absurd h id
  | succ frames ih =>
      rw [walkAll_eq_walkEach s u 0, walkWithin]
      apply walkEachWithin_eq
      intro p hp k v
      have hinside : ∀ qs ∈ p.children, ∀ s u, walkWithin frames s u qs = some (walkAll s u qs) := by
        intro qs hqs
        exact ih (h p hp qs hqs)
      -- Only the lists inside a pattern are walked over in frames of their own.
      cases p with
      | basic triples | other kind => rfl
      | optional qs | group qs | graph name qs => exact hinside qs (List.mem_singleton_self qs) _ v
      | union branches =>
          show walkEachWithin _ 0 branches (v + 1) = some (walkBranches s v 0 (v + 1) branches)
          rw [walkBranches_eq_walkEach]
          apply walkEachWithin_eq
          intro qs hqs b w
          exact hinside qs hqs _ w

end QueryGraph
