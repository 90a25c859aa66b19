import QueryGraph.Graph.Model
import QueryGraph.Rdf.Vocabulary

/-!
# `Graph.Annotations` — annotation predicates and edge categories

## Contents
- `Annotations` — the predicates whose literal objects are texts for people to read.
- `edgeCategory` — what a triple says.
-/

namespace QueryGraph

/-! ## Annotation predicates -/

/-- A set of predicate IRIs. -/
structure Annotations where
  /-- The members, each once. -/
  iris : List String
  /-- No member is repeated. -/
  nodup : iris.Nodup

namespace Annotations

instance : Membership String Annotations := ⟨fun a i => i ∈ a.iris⟩

instance (a : Annotations) (i : String) : Decidable (i ∈ a) :=
  inferInstanceAs (Decidable (i ∈ a.iris))

/-- No annotation predicates. -/
def empty : Annotations := ⟨[], by simp⟩

/-- The set with one more predicate. -/
def insert (a : Annotations) (i : String) : Annotations :=
  if h : i ∈ a.iris then a else ⟨i :: a.iris, List.nodup_cons.2 ⟨h, a.nodup⟩⟩

/-- The set with some more predicates. -/
def insertAll (a : Annotations) (extra : List String) : Annotations := extra.foldl insert a

/-- The predicates that usually lead to a text for people to read. -/
def standard : Annotations := empty.insertAll Vocabulary.annotationPredicates

instance : Inhabited Annotations := ⟨standard⟩

/-- How many predicates the set has. -/
def size (a : Annotations) : Nat := a.iris.length

/-- Whether two sets have the same members. -/
def sameMembers (a b : Annotations) : Bool :=
  a.iris.all (· ∈ b.iris) && b.iris.all (· ∈ a.iris)

theorem mem_insert {a : Annotations} {i j : String} : j ∈ a.insert i ↔ j = i ∨ j ∈ a := by
  show j ∈ (a.insert i).iris ↔ j = i ∨ j ∈ a.iris
  unfold insert
  split
  · rename_i h
    exact ⟨.inr, fun hj => hj.elim (fun e => e ▸ h) id⟩
  · simp

theorem mem_insertAll {a : Annotations} {extra : List String} {j : String} :
    j ∈ a.insertAll extra ↔ j ∈ a ∨ j ∈ extra := by
  induction extra generalizing a with
  | nil => simp [insertAll]
  | cons i rest ih =>
    rw [show a.insertAll (i :: rest) = (a.insert i).insertAll rest from rfl, ih, mem_insert]
    rw [List.mem_cons, or_comm (a := j = i), or_assoc]

theorem sameMembers_iff {a b : Annotations} : a.sameMembers b = true ↔ ∀ i, i ∈ a ↔ i ∈ b := by
  simp only [sameMembers, Bool.and_eq_true, List.all_eq_true, decide_eq_true_eq]
  exact ⟨fun h i => ⟨h.1 i, h.2 i⟩, fun h => ⟨fun i => (h i).1, fun i => (h i).2⟩⟩

end Annotations

/-! ## Edge categories -/

/-- The category of a triple. A path comes first, then `rdf:type`; of the rest, a triple with a
literal object gives a value, which is an annotation when the predicate is one of the given IRIs. -/
def edgeCategory (annotations : Annotations) (predicate : Predicate) (object : Term) :
    EdgeCategory :=
  match predicate with
  | .path .. => .path
  | .term p =>
    if p.asIri? = some Vocabulary.rdfType then .rdfType
    else
      match object with
      | .literal _ =>
        if ∃ i ∈ p.asIri?, i ∈ annotations then .annotationProperty else .datatypeProperty
      | _ => .objectProperty

/-- A triple has the category `path` exactly when its predicate is one. -/
theorem edgeCategory_eq_path_iff {annotations : Annotations} {predicate : Predicate}
    {object : Term} :
    edgeCategory annotations predicate object = .path ↔ ∃ op ps, predicate = .path op ps := by
  cases predicate with
  | path op ps => simp [edgeCategory]
  | term p =>
    simp only [edgeCategory, reduceCtorEq, exists_false, iff_false]
    repeat' split
    all_goals simp

end QueryGraph
