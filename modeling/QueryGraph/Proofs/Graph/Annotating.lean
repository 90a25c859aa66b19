import QueryGraph.Proofs.Graph.Pens

/-!
# `Proofs.Graph.Annotating` — more predicates that lead to annotations

Whether a value counts as data or as a text for people to read is decided by the set of annotation
predicates, and nothing else is. With a larger set some values become annotations: those that were data,
and whose predicate is an IRI that has been added. An added IRI does nothing inside a property path, and
nothing if it is `rdf:type`, since both are decided before the set is asked; and as type edges stay what
they are, so do the nodes.

## Contents
- `Predicate.IsNew` — an IRI that is in the larger set only.
- `edgeCategory_literal` — where the set is asked.
- `edgeCategory_of_subset` — the category of a triple under a larger set.
- `Edge.annotate`, `GraphModel.annotate` — some of the data become annotations.
- `Query.edges_build_of_subset`, `Query.nodes_build_annotations` — the edges and the nodes.
- `Query.build_eq_of_mem_iff` — sets with the same members.
- `Query.build_of_subset` — the main statement.
-/

namespace QueryGraph

variable {a b : Annotations}

/-! ## Categories -/

/-- The predicate is an IRI by itself, and of two sets it is in the second only. -/
def Predicate.IsNew (a b : Annotations) (predicate : Predicate) : Prop :=
  ∃ i, predicate = .term (.iri i) ∧ i ∈ b ∧ i ∉ a

/-- The same in terms of the IRI that a predicate has. -/
theorem Predicate.isNew_iff {predicate : Predicate} :
    predicate.IsNew a b ↔ ∃ i ∈ predicate.asIri?, i ∈ b ∧ i ∉ a := by
  simp only [IsNew, Option.mem_def, asIri?_eq_some_iff]

instance (predicate : Predicate) : Decidable (predicate.IsNew a b) :=
  decidable_of_iff _ Predicate.isNew_iff.symm

/-- The set is asked for a triple with a literal object and a predicate other than `rdf:type`. -/
theorem edgeCategory_literal {p : Term} (hp : p.asIri? ≠ some Vocabulary.rdfType) (l : Literal) :
    edgeCategory a (.term p) (.literal l) =
      if ∃ i ∈ p.asIri?, i ∈ a then .annotationProperty else .datatypeProperty := by
  rw [edgeCategory, if_neg hp]

/-- **A larger set** makes annotations of the data whose predicates are new, and leaves all other triples
alone. -/
theorem edgeCategory_of_subset (h : ∀ i, i ∈ a → i ∈ b) (predicate : Predicate) (object : Term) :
    edgeCategory b predicate object =
      if edgeCategory a predicate object = .datatypeProperty ∧ predicate.IsNew a b then
        .annotationProperty
      else edgeCategory a predicate object := by
  cases predicate with
  | path op ps => simp [edgeCategory]
  | term p =>
      by_cases htype : p.asIri? = some Vocabulary.rdfType
      · simp [edgeCategory, htype]
      · cases object with
        | var _ | iri _ | blank _ | unknown => simp [edgeCategory, htype]
        | literal l =>
            rw [edgeCategory_literal htype, edgeCategory_literal htype]
            by_cases ha : ∃ i ∈ p.asIri?, i ∈ a
            · -- An annotation stays one.
              have hb : ∃ i ∈ p.asIri?, i ∈ b := ha.imp fun i hi => ⟨hi.1, h i hi.2⟩
              rw [if_pos ha, if_pos hb]
              simp
            · have hnew : (Predicate.term p).IsNew a b ↔ ∃ i ∈ p.asIri?, i ∈ b := by
                rw [Predicate.isNew_iff]
                apply exists_congr
                intro i
                apply and_congr_right
                intro hi
                exact and_iff_left fun hmem => ha ⟨i, hi, hmem⟩
              simp only [if_neg ha, hnew, true_and]

/-! ## Graphs -/

/-- An edge that becomes an annotation, if it is one of data and has a new predicate. -/
def Edge.annotate (isNew : Prop) [Decidable isNew] (e : Edge) : Edge :=
  if e.category = .datatypeProperty ∧ isNew then { e with category := .annotationProperty } else e

/-- A graph in which data with new predicates become annotations; `IsNew` says of which edges the
predicates are new. -/
def GraphModel.annotate (IsNew : Nat → Prop) [DecidablePred IsNew] (g : GraphModel) : GraphModel :=
  { g with edges := g.edges.mapIdx fun i e => e.annotate (IsNew i) }

namespace Query

variable {q : Query}

/-- The triple with the given number has a predicate that is new. -/
def IsNewAt (q : Query) (a b : Annotations) (i : Nat) : Prop :=
  ∃ s ∈ q.scopedTriples[i]?, s.triple.predicate.IsNew a b

instance (q : Query) (a b : Annotations) (i : Nat) : Decidable (q.IsNewAt a b i) :=
  inferInstanceAs (Decidable (∃ s ∈ q.scopedTriples[i]?, s.triple.predicate.IsNew a b))

/-- The edge of a triple under a larger set. -/
theorem edge_of_subset (h : ∀ i, i ∈ a → i ∈ b) (number : Nat) (s : ScopedTriple) :
    Drawing.edge (q.pen b) number s =
      (Drawing.edge (q.pen a) number s).annotate (s.triple.predicate.IsNew a b) := by
  have hcategory := edgeCategory_of_subset h s.triple.predicate s.triple.object
  have hb : Drawing.edge (q.pen b) number s = { Drawing.edge (q.pen a) number s with
      category := edgeCategory b s.triple.predicate s.triple.object } := rfl
  have ha : (Drawing.edge (q.pen a) number s).category =
      edgeCategory a s.triple.predicate s.triple.object := rfl
  rw [hb, hcategory, Edge.annotate, ha]
  split <;> rfl

/-- **The edges under a larger set** are the same, but for data with new predicates. -/
theorem edges_build_of_subset (h : ∀ i, i ∈ a → i ∈ b) :
    (q.build b).edges = (q.build a).edges.mapIdx fun i e => e.annotate (q.IsNewAt a b i) := by
  rw [edges_build, edges_build]
  apply List.ext_getElem?
  intro i
  rw [List.getElem?_mapIdx, List.getElem?_mapIdx, List.getElem?_mapIdx]
  cases hs : q.scopedTriples[i]? with
  | none => rfl
  | some s =>
      have hnew : q.IsNewAt a b i ↔ s.triple.predicate.IsNew a b := by
        simp [IsNewAt, hs]
      simp only [Option.map_some, edge_of_subset h, Edge.annotate, hnew]

/-- **The nodes do not depend on the set**, as they have no part in it and type edges are the same. -/
theorem nodes_build_annotations (q : Query) (a b : Annotations) :
    (q.build b).nodes = (q.build a).nodes := by
  apply nodes_build_eq rfl
  intro t
  rfl

/-- **With more annotation predicates, more of the data are annotations, and that is all.** The edges that
change are those of data whose predicates are IRIs by themselves and have been added; what changes is
their category. -/
theorem build_of_subset (h : ∀ i, i ∈ a → i ∈ b) :
    q.build b = (q.build a).annotate (q.IsNewAt a b) := by
  apply GraphModel.ext
  case queryType => rfl
  case prefixes => rfl
  case nodes => exact q.nodes_build_annotations a b
  case edges => exact edges_build_of_subset h
  case tripleCount => rfl

/-- Values under two plain predicates, a link under the second one, and values under a path of it, under
a variable and under `rdf:type`. -/
def mixedPredicates : Query := .ofPatterns [.basic [
  ⟨.var "x", .term (.iri "p"), .literal ⟨"1", none, none⟩⟩,
  ⟨.var "x", .term (.iri "q"), .literal ⟨"2", none, none⟩⟩,
  ⟨.var "x", .term (.iri "q"), .iri "y"⟩,
  ⟨.var "x", .path "*" [.term (.iri "q")], .literal ⟨"3", none, none⟩⟩,
  ⟨.var "x", .term (.var "q"), .literal ⟨"4", none, none⟩⟩,
  ⟨.iri "y", .term (.iri Vocabulary.rdfType), .literal ⟨"5", none, none⟩⟩]]

/-- A set with the first predicate. -/
def fewer : Annotations := Annotations.empty.insert "p"

/-- The same set with the second predicate and `rdf:type` added. -/
def more : Annotations := fewer.insertAll ["q", Vocabulary.rdfType]

/-- One value becomes an annotation. -/
theorem build_of_subset_mixedPredicates :
    (∀ i, i ∈ fewer → i ∈ more) ∧
    (mixedPredicates.build fewer).edges.map Edge.category =
      [.annotationProperty, .datatypeProperty, .objectProperty, .path, .datatypeProperty, .rdfType] ∧
    (mixedPredicates.build more).edges.map Edge.category =
      [.annotationProperty, .annotationProperty, .objectProperty, .path, .datatypeProperty, .rdfType] ∧
    (mixedPredicates.build more).nodes = (mixedPredicates.build fewer).nodes := by
  have hsubset : ∀ i, i ∈ fewer → i ∈ more := by
    intro i hi
    exact Annotations.mem_insertAll.mpr (Or.inl hi)
  have hbuild := build_of_subset (q := mixedPredicates) hsubset
  have hedges : (mixedPredicates.build more).edges = (mixedPredicates.build fewer).edges.mapIdx
      fun i e => e.annotate (mixedPredicates.IsNewAt fewer more i) := congrArg GraphModel.edges hbuild
  refine ⟨hsubset, ?_, ?_, ?_⟩
  · rw [edges_build]
    decide
  · rw [hedges, edges_build]
    decide
  · rw [hbuild]
    rfl

end Query

end QueryGraph
