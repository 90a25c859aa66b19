import QueryGraph.Proofs.Graph.Table

/-!
# `Proofs.Graph.Typing` — what type edges make of a node, in one look

The type edges are gone through one after the other, and each may change the categories that the next
one finds. What comes out does not depend on their order: an IRI that some type edge leads to is a
class; any other node but a literal that nothing is known of and that some type edge comes from is an
individual; the rest stays as it is (`Node.typed`).

## Contents
- `LeadsTo`, `ComesFrom` — a type edge among some edges leads to an id, or comes from one.
- `Node.typed`, `typed_append` — the closed form, and why the edges may be taken one by one.
- `Indexed.toList_applyTypes` — applying the edges to a table is applying the closed form to its nodes.
-/

namespace QueryGraph

/-! ## The closed form -/

/-- One of the edges gives a class, and leads to the node with the given id. -/
def LeadsTo (es : List Edge) (id : String) : Prop := ∃ e ∈ es, e.category = .rdfType ∧ e.target = id

/-- One of the edges gives a class, and comes from the node with the given id. -/
def ComesFrom (es : List Edge) (id : String) : Prop := ∃ e ∈ es, e.category = .rdfType ∧ e.source = id

instance (es : List Edge) (id : String) : Decidable (LeadsTo es id) :=
  inferInstanceAs (Decidable (∃ e ∈ es, e.category = .rdfType ∧ e.target = id))

instance (es : List Edge) (id : String) : Decidable (ComesFrom es id) :=
  inferInstanceAs (Decidable (∃ e ∈ es, e.category = .rdfType ∧ e.source = id))

theorem leadsTo_append {es fs : List Edge} {id : String} :
    LeadsTo (es ++ fs) id ↔ LeadsTo es id ∨ LeadsTo fs id := by
  simp only [LeadsTo, List.mem_append, or_and_right, exists_or]

theorem comesFrom_append {es fs : List Edge} {id : String} :
    ComesFrom (es ++ fs) id ↔ ComesFrom es id ∨ ComesFrom fs id := by
  simp only [ComesFrom, List.mem_append, or_and_right, exists_or]

namespace Node

/-- The category of a node when all of the edges have been taken into account. -/
def typedCategory (es : List Edge) (n : Node) : NodeCategory :=
  if n.kind = .iri ∧ LeadsTo es n.id then .ontologyClass
  else if n.kind ≠ .literal ∧ n.category = .unknown ∧ ComesFrom es n.id then .individual
  else n.category

/-- A node when all of the edges have been taken into account. -/
def typed (es : List Edge) (n : Node) : Node := { n with category := n.typedCategory es }

theorem typed_nil (n : Node) : n.typed [] = n := by
  simp [typed, typedCategory, LeadsTo, ComesFrom]

/-- **Edges may be taken into account in two portions.** A class stays one, and an individual becomes
a class in the second portion exactly as an unknown node would have in the whole. -/
theorem typed_append (es fs : List Edge) (n : Node) : n.typed (es ++ fs) = (n.typed es).typed fs := by
  have hcat : n.typedCategory (es ++ fs) = (n.typed es).typedCategory fs := by
    simp only [typedCategory, typed, leadsTo_append, comesFrom_append]
    by_cases hes : n.kind = .iri ∧ LeadsTo es n.id
    · -- A class after the first portion is known as one in the second.
      simp [hes]
    · by_cases hfs : n.kind = .iri ∧ LeadsTo fs n.id
      · simp [hfs]
      · have hnot : ¬(n.kind = .iri ∧ (LeadsTo es n.id ∨ LeadsTo fs n.id)) := by
          rintro ⟨hkind, hleads | hleads⟩
          · exact hes ⟨hkind, hleads⟩
          · exact hfs ⟨hkind, hleads⟩
        simp only [if_neg hnot, if_neg hes, if_neg hfs]
        by_cases hopen : n.kind ≠ .literal ∧ n.category = .unknown
        · by_cases hfrom : ComesFrom es n.id
          · simp [hopen, hfrom]
          · simp [hopen, hfrom]
        · have hclosed : ∀ P : Prop, ¬(n.kind ≠ .literal ∧ n.category = .unknown ∧ P) :=
            fun P h => hopen ⟨h.1, h.2.1⟩
          simp only [if_neg (hclosed _)]
  rw [typed, typed, hcat]
  rfl

/-- One edge is taken into account at its target first, and then at its source. -/
theorem typed_singleton (e : Edge) (n : Node) (he : e.category = .rdfType) :
    n.typed [e] =
      (fun m : Node => if m.id = e.source then m.asIndividual else m)
        (if n.id = e.target then n.asClass else n) := by
  have htarget : LeadsTo [e] n.id ↔ n.id = e.target := by simp [LeadsTo, he, eq_comm]
  have hsource : ComesFrom [e] n.id ↔ n.id = e.source := by simp [ComesFrom, he, eq_comm]
  simp only [typed, typedCategory, htarget, hsource]
  by_cases hclass : n.kind = .iri ∧ n.id = e.target
  · -- The target has become a class before the source has its turn.
    have hmarked : (if n.id = e.target then n.asClass else n) =
        { n with category := .ontologyClass } := by
      rw [if_pos hclass.2, asClass, if_pos hclass.1]
    rw [hmarked]
    simp [hclass, asIndividual]
  · have hmarked : (if n.id = e.target then n.asClass else n) = n := by
      by_cases hid : n.id = e.target
      · rw [if_pos hid, asClass, if_neg fun hkind => hclass ⟨hkind, hid⟩]
      · rw [if_neg hid]
    rw [hmarked, if_neg hclass]
    by_cases hid : n.id = e.source
    · by_cases hind : n.kind ≠ .literal ∧ n.category = .unknown
      · simp [asIndividual, hid, hind]
      · have hnot : ¬(n.kind ≠ .literal ∧ n.category = .unknown ∧ n.id = e.source) :=
          fun h => hind ⟨h.1, h.2.1⟩
        simp only [if_neg hnot, if_pos hid, asIndividual, if_neg hind]
    · simp [hid]

theorem typed_singleton_of_ne {e : Edge} (he : e.category ≠ .rdfType) (n : Node) :
    n.typed [e] = n := by
  simp [typed, typedCategory, LeadsTo, ComesFrom, he]

theorem asClass_id (n : Node) : n.asClass.id = n.id := by
  unfold asClass
  split <;> rfl

theorem asIndividual_id (n : Node) : n.asIndividual.id = n.id := by
  unfold asIndividual
  split <;> rfl

end Node

/-! ## Applying edges to a table -/

namespace NodeTable

variable {t : NodeTable}

theorem Indexed.applyType (h : t.Indexed) (e : Edge) : (t.applyType e).Indexed := by
  rw [NodeTable.applyType]
  split
  · exact (h.update e.target Node.asClass_id).update e.source Node.asIndividual_id
  · exact h

theorem Indexed.toList_applyType (h : t.Indexed) (e : Edge) :
    (t.applyType e).toList = t.toList.map (Node.typed [e]) := by
  by_cases he : e.category = .rdfType
  · rw [NodeTable.applyType, if_pos he, (h.update e.target Node.asClass_id).toList_update,
      h.toList_update, List.map_map]
    refine List.map_congr_left fun n _ => ?_
    rw [Node.typed_singleton e n he]
    rfl
  · rw [NodeTable.applyType, if_neg he]
    have hsame : Node.typed [e] = id := funext (Node.typed_singleton_of_ne he)
    rw [hsame, List.map_id]

/-- **Applying the type edges to a table** changes each of its nodes to the closed form, whatever the
order of the edges. -/
theorem Indexed.toList_applyTypes (h : t.Indexed) (es : List Edge) :
    (t.applyTypes es).toList = t.toList.map (Node.typed es) := by
  induction es generalizing t with
  | nil =>
      have hsame : Node.typed [] = id := funext Node.typed_nil
      rw [hsame, List.map_id]
      rfl
  | cons e es ih =>
      show ((t.applyType e).applyTypes es).toList = _
      rw [ih (h.applyType e), h.toList_applyType, List.map_map]
      refine List.map_congr_left fun n _ => ?_
      exact (Node.typed_append [e] es n).symm

end NodeTable

end QueryGraph
