import QueryGraph.Sparql.Pattern

/-!
# `Graph.Scope` — the triples of a WHERE tree, with their scopes

The tree is laid out as a list, depth first and from left to right. What surrounds a triple is not
evaluated but remembered: whether it is optional, which branches of which unions it stands in, and
the name of the graph around it. Unions are numbered in the order in which the walk meets them.

## Contents
- `BranchRef`, `Scope`, `ScopedTriple` — where a triple was found.
- `Walk` — what a walk over a part of the tree leaves behind.
- `Pattern.walk`, `walkAll`, `walkBranches` — the walk.
- `flatten` — the triples of a WHERE clause.
-/

namespace QueryGraph

/-! ## Scopes -/

/-- A branch of a union. -/
structure BranchRef where
  /-- The number of the union. -/
  union : Nat
  /-- The number of the branch inside it. -/
  branch : Nat
  deriving DecidableEq, Repr, Inhabited

/-- Where in the tree a triple was found. -/
structure Scope where
  /-- Inside an OPTIONAL block. -/
  optional : Bool
  /-- The union branches around it, the outermost first. -/
  branches : List BranchRef
  /-- The name of the innermost GRAPH block around it. -/
  graph : Option Term
  deriving DecidableEq, Repr, Inhabited

namespace Scope

/-- The scope of the whole WHERE clause. -/
def root : Scope := ⟨false, [], none⟩

/-- The scope inside an OPTIONAL block. -/
def insideOptional (s : Scope) : Scope := { s with optional := true }

/-- The scope inside a branch of a union. -/
def insideBranch (s : Scope) (union branch : Nat) : Scope :=
  { s with branches := s.branches ++ [⟨union, branch⟩] }

/-- The scope inside a GRAPH block. -/
def insideGraph (s : Scope) (name : Term) : Scope := { s with graph := some name }

end Scope

/-- A triple and where it was found. -/
structure ScopedTriple where
  triple : Triple
  scope : Scope
  deriving Repr, Inhabited

/-! ## Walking -/

/-- What a walk leaves behind: the number of the next union, the triples it found and the kinds of
the patterns it passed over, both in order. -/
structure Walk where
  unions : Nat
  triples : List ScopedTriple
  skipped : List String
  deriving Repr, Inhabited

namespace Walk

/-- A walk that finds nothing. -/
def still (unions : Nat) : Walk := ⟨unions, [], []⟩

/-- One walk after another; the second one goes on counting where the first one stopped. -/
def andThen (first : Walk) (second : Nat → Walk) : Walk :=
  let next := second first.unions
  ⟨next.unions, first.triples ++ next.triples, first.skipped ++ next.skipped⟩

@[simp] theorem still_andThen (unions : Nat) (second : Nat → Walk) :
    (still unions).andThen second = second unions := rfl

@[simp] theorem andThen_still (first : Walk) : first.andThen still = first := by
  simp [andThen, still]

theorem andThen_assoc (first : Walk) (second third : Nat → Walk) :
    (first.andThen second).andThen third = first.andThen fun n => (second n).andThen third := by
  simp [andThen]

end Walk

mutual

/-- Walks over one pattern, with `unions` as the number of the next union. -/
def Pattern.walk (scope : Scope) (unions : Nat) : Pattern → Walk
  | .basic triples => ⟨unions, triples.map fun t => ⟨t, scope⟩, []⟩
  | .optional patterns => walkAll scope.insideOptional unions patterns
  | .union branches => walkBranches scope unions 0 (unions + 1) branches
  | .group patterns => walkAll scope unions patterns
  | .graph name patterns => walkAll (scope.insideGraph name) unions patterns
  | .other kind => ⟨unions, [], [kind]⟩

/-- Walks over patterns that stand side by side. -/
def walkAll (scope : Scope) (unions : Nat) : List Pattern → Walk
  | [] => .still unions
  | p :: rest => (p.walk scope unions).andThen fun unions => walkAll scope unions rest

/-- Walks over the branches of union number `union`, from number `branch` on. -/
def walkBranches (scope : Scope) (union branch unions : Nat) : List (List Pattern) → Walk
  | [] => .still unions
  | patterns :: rest =>
    (walkAll (scope.insideBranch union branch) unions patterns).andThen fun unions =>
      walkBranches scope union (branch + 1) unions rest

end

/-- Walking over two lists of patterns is walking over the first and then over the second. -/
theorem walkAll_append (scope : Scope) (unions : Nat) (ps qs : List Pattern) :
    walkAll scope unions (ps ++ qs) =
      (walkAll scope unions ps).andThen fun n => walkAll scope n qs := by
  induction ps generalizing unions with
  | nil => simp [walkAll]
  | cons p ps ih => simp [walkAll, ih, Walk.andThen_assoc]

/-- The walk over a whole WHERE clause. -/
def walkWhere (patterns : List Pattern) : Walk := walkAll .root 0 patterns

/-- The triples of a WHERE clause, depth first, with their scopes. -/
def flatten (patterns : List Pattern) : List ScopedTriple := (walkWhere patterns).triples

end QueryGraph
