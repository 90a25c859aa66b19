import Mathlib.Logic.Embedding.Basic
import QueryGraph.Proofs.Rdf.Key
import QueryGraph.Proofs.Tree.Address
import QueryGraph.Sparql.Query

/-!
# `Proofs.Sparql.Renaming` — other names for variables and blank nodes

The names of variables and of blank nodes are chosen by whoever writes a query. A renaming gives all of
them new names, different names for different ones, wherever they stand: in triples, in the operands of
property paths, as graph names and in the projection. IRIs and literals are not names and stay.

Keys respect this. Two terms have the same key after a renaming exactly when they had before: keys of
different kinds never meet, and within a kind the renaming merges nothing.

## Contents
- `Renaming` — new names; `Term.rename`, `Predicate.rename`, `Triple.rename`, `Pattern.rename`,
  `SelectItem.rename`, `Query.rename` — what has them.
- `Term.key_rename_eq_iff` — terms are told apart as before.
- `Query.contains_selectedKeys_rename` — the same variables are selected.
-/

namespace QueryGraph

/-- New names for the variables and for the blank nodes of a query, different ones for different
names. -/
structure Renaming where
  /-- The new names of the variables. -/
  var : String ↪ String
  /-- The new names of the blank nodes. -/
  blank : String ↪ String

/-! ## Renaming terms -/

/-- A term under its new name, if it has a name. -/
def Term.rename (r : Renaming) : Term → Term
  | .var name => .var (r.var name)
  | .blank name => .blank (r.blank name)
  | .iri i => .iri i
  | .literal l => .literal l
  | .unknown => .unknown

namespace Term

variable (r : Renaming)

/-- A term is drawn as what it was. -/
@[simp] theorem nodeKind_rename (t : Term) : (t.rename r).nodeKind = t.nodeKind := by
  cases t <;> rfl

/-- Only the terms that have no name are IRIs. -/
@[simp] theorem asIri?_rename (t : Term) : (t.rename r).asIri? = t.asIri? := by
  cases t <;> rfl

/-- Different terms stay different. -/
theorem rename_injective : Function.Injective (Term.rename r) := by
  intro s t h
  cases s <;> cases t <;> simp_all [rename]

/-- **Terms are told apart as before**, by their keys. -/
theorem key_rename_eq_iff {s t : Term} : (s.rename r).key = (t.rename r).key ↔ s.key = t.key := by
  by_cases hliteral : ∃ l, s = .literal l
  · -- A literal stays, and what has the key of a literal is one.
    obtain ⟨l, rfl⟩ := hliteral
    have hsame : ∀ h : (literal l).nodeKind = t.nodeKind, t.rename r = t := by
      intro h
      cases t <;> simp_all [nodeKind, rename]
    constructor
    · intro h
      have hkind := nodeKind_eq_of_key_eq h
      rw [nodeKind_rename, nodeKind_rename] at hkind
      rw [hsame hkind] at h
      exact h
    · intro h
      rw [hsame (nodeKind_eq_of_key_eq h)]
      exact h
  · -- Any other term is known by its key, before and after.
    have hother : ∀ l, s ≠ .literal l := fun l hl => hliteral ⟨l, hl⟩
    have hother' : ∀ l, s.rename r ≠ .literal l := by
      intro l hl
      cases s <;> simp_all [rename]
    constructor
    · intro h
      rw [rename_injective r (eq_of_key_eq hother' h)]
    · intro h
      rw [eq_of_key_eq hother h]

end Term

/-! ## Renaming queries -/

/-- A predicate under new names; those of a path are in its operands, down to any depth. -/
def Predicate.rename (r : Renaming) : Predicate → Predicate
  | .term t => .term (t.rename r)
  | .path operator operands => .path operator (operands.map (rename r))

/-- A triple under new names. -/
def Triple.rename (r : Renaming) (t : Triple) : Triple :=
  ⟨t.subject.rename r, t.predicate.rename r, t.object.rename r⟩

/-- A pattern under new names: those in its triples and of its graphs, down to any depth. -/
def Pattern.rename (r : Renaming) : Pattern → Pattern
  | .basic triples => .basic (triples.map (Triple.rename r))
  | .optional patterns => .optional (patterns.map (rename r))
  | .union branches => .union (branches.map fun patterns => patterns.map (rename r))
  | .group patterns => .group (patterns.map (rename r))
  | .graph name patterns => .graph (name.rename r) (patterns.map (rename r))
  | .other kind => .other kind
decreasing_by
  · exact sizeOf_lt_of_mem_child (List.mem_singleton_self _) ‹_›
  · exact sizeOf_lt_of_mem_child ‹_ ∈ branches› ‹_›
  · exact sizeOf_lt_of_mem_child (List.mem_singleton_self _) ‹_›
  · exact sizeOf_lt_of_mem_child (List.mem_singleton_self _) ‹_›

/-- An item of a projection under its new name. -/
def SelectItem.rename (r : Renaming) : SelectItem → SelectItem
  | .var name => .var (r.var name)
  | .aliased name => .aliased (r.var name)
  | .other => .other

/-- A projection under new names. -/
def Projection.rename (r : Renaming) : Projection → Projection
  | .all => .all
  | .items list => .items (list.map (SelectItem.rename r))

/-- A query under new names. -/
def Query.rename (r : Renaming) (q : Query) : Query :=
  { q with
    projection := q.projection.map (Projection.rename r)
    patterns := q.patterns.map fun patterns => patterns.map (Pattern.rename r) }

theorem SelectItem.name?_rename (r : Renaming) (item : SelectItem) :
    (item.rename r).name? = item.name?.map r.var := by
  cases item <;> rfl

theorem Projection.names_rename (r : Renaming) (p : Projection) :
    (p.rename r).names = p.names.map (Option.map r.var) := by
  cases p with
  | all => rfl
  | items list =>
      show (list.map (SelectItem.rename r)).map SelectItem.name? =
        (list.map SelectItem.name?).map (Option.map r.var)
      rw [List.map_map, List.map_map]
      exact List.map_congr_left fun item _ => item.name?_rename r

namespace Query

variable (q : Query) (r : Renaming)

theorem wherePatterns_rename :
    (q.rename r).wherePatterns = q.wherePatterns.map (Pattern.rename r) := by
  show (q.patterns.map _).getD [] = (q.patterns.getD []).map _
  cases q.patterns <;> rfl

/-- The selected variables are the same ones, under their new names. -/
theorem selectedNames_rename : (q.rename r).selectedNames = q.selectedNames.map r.var := by
  unfold selectedNames
  by_cases hselect : q.queryType = some "SELECT"
  · rw [if_pos (show (q.rename r).queryType = some "SELECT" from hselect), if_pos hselect]
    show (((q.projection.map (Projection.rename r)).map Projection.names).getD []).filterMap id = _
    cases q.projection with
    | none => rfl
    | some p =>
        show (p.rename r).names.filterMap id = (p.names.filterMap id).map r.var
        rw [p.names_rename, List.filterMap_map, List.map_filterMap]
        rfl
  · rw [if_neg (show ¬(q.rename r).queryType = some "SELECT" from hselect), if_neg hselect]
    rfl

/-- **The same terms are selected**, under their new names. -/
theorem contains_selectedKeys_rename (t : Term) :
    (q.rename r).selectedKeys.contains (t.rename r).key = q.selectedKeys.contains t.key := by
  have hmem : (t.rename r).key ∈ (q.rename r).selectedKeys ↔ t.key ∈ q.selectedKeys := by
    rw [mem_selectedKeys, mem_selectedKeys, selectedNames_rename]
    simp only [List.mem_map, exists_exists_and_eq_and]
    refine exists_congr fun name => and_congr_right fun _ => ?_
    exact Term.key_rename_eq_iff r (s := .var name)
  rw [Bool.eq_iff_iff, List.contains_iff_mem, List.contains_iff_mem]
  exact hmem

end Query

end QueryGraph
