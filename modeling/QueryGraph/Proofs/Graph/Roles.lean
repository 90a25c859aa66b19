import QueryGraph.Proofs.Graph.Invariants
import QueryGraph.Proofs.Rdf.Key

/-!
# `Proofs.Graph.Roles` — categories of nodes, read off the triples

The pass over the type edges works on ids, in the order of the edges, and overwrites what it finds. What
it leaves is a matter of the triples alone: which of them say `rdf:type`, and what stands on either side
of those. Neither their order nor their scopes play a part.

## Contents
- `TypeObject`, `TypeSubject` — the two sides of the `rdf:type` triples.
- `HasRole` — the category of a node, from its kind and the triples.
- `category_eq_iff_hasRole` — a built graph gives its nodes these categories.
- `node?_category_eq` — so they are the same for every order of the triples.
- `Query.category_of_triples` — the main statement.
-/

namespace QueryGraph

/-! ## Type triples -/

/-- The predicate is the IRI `rdf:type` itself. -/
def Triple.IsType (t : Triple) : Prop := t.predicate = .term (.iri Vocabulary.rdfType)

/-- What has the given key is the object of a type triple. -/
def TypeObject (ts : List Triple) (id : String) : Prop := ∃ t ∈ ts, t.IsType ∧ t.object.key = id

/-- What has the given key is the subject of a type triple. -/
def TypeSubject (ts : List Triple) (id : String) : Prop := ∃ t ∈ ts, t.IsType ∧ t.subject.key = id

/-- The category of a node of the given kind and id, as the triples have it. -/
def HasRole (ts : List Triple) (kind : NodeKind) (id : String) : NodeCategory → Prop
  | .ontologyClass => kind = .iri ∧ TypeObject ts id
  | .individual =>
    ¬(kind = .iri ∧ TypeObject ts id) ∧ (kind = .iri ∨ kind = .blank) ∧ TypeSubject ts id
  | .literal => kind = .literal
  | .var => kind = .var
  | .unknown =>
    ¬(kind = .iri ∧ TypeObject ts id) ∧ (kind = .iri ∨ kind = .blank) ∧ ¬TypeSubject ts id

/-- Roles depend on which triples there are, not on their order or number. -/
theorem hasRole_congr {ts us : List Triple} (h : ∀ t, t ∈ ts ↔ t ∈ us) (kind : NodeKind)
    (id : String) (c : NodeCategory) : HasRole ts kind id c ↔ HasRole us kind id c := by
  have hobject : TypeObject ts id ↔ TypeObject us id :=
    exists_congr fun t => and_congr_left fun _ => h t
  have hsubject : TypeSubject ts id ↔ TypeSubject us id :=
    exists_congr fun t => and_congr_left fun _ => h t
  cases c <;> simp only [HasRole, hobject, hsubject]

/-- **A triple gives a class** exactly when its predicate is `rdf:type`, whatever its object. -/
theorem edgeCategory_eq_rdfType_iff {annotations : Annotations} {predicate : Predicate}
    {object : Term} :
    edgeCategory annotations predicate object = .rdfType ↔
      predicate = .term (.iri Vocabulary.rdfType) := by
  cases predicate with
  | path op ps => simp [edgeCategory]
  | term p =>
      rw [Predicate.term.injEq, ← Term.asIri?_eq_some_iff]
      by_cases hp : p.asIri? = some Vocabulary.rdfType
      · simp [edgeCategory, hp]
      · -- What is left are properties, of one sort or another.
        refine iff_of_false ?_ hp
        cases object with
        | literal l =>
            simp only [edgeCategory, if_neg hp]
            split <;> simp
        | var _ | iri _ | blank _ | unknown => simp [edgeCategory, hp]

namespace Query

variable {q : Query} {a : Annotations}

/-! ## Type edges of a built graph -/

/-- The triples of a query without their scopes. -/
def triples (q : Query) : List Triple := q.scopedTriples.map ScopedTriple.triple

/-- The edges that give a class are those of the type triples. -/
theorem exists_typeEdge_iff {P : String → String → Prop} :
    (∃ e ∈ (q.build a).edges, e.category = .rdfType ∧ P e.source e.target) ↔
      ∃ t ∈ q.triples, t.IsType ∧ P t.subject.key t.object.key := by
  rw [edges_build]
  constructor
  · rintro ⟨e, he, hcat, hP⟩
    obtain ⟨i, hi, rfl⟩ := List.mem_mapIdx.mp he
    exact ⟨_, List.mem_map_of_mem (List.getElem_mem hi), edgeCategory_eq_rdfType_iff.mp hcat, hP⟩
  · rintro ⟨t, ht, htype, hP⟩
    obtain ⟨s, hs, rfl⟩ := List.mem_map.mp ht
    obtain ⟨i, hi, rfl⟩ := List.mem_iff_getElem.mp hs
    exact ⟨_, List.mem_mapIdx.mpr ⟨i, hi, rfl⟩, edgeCategory_eq_rdfType_iff.mpr htype, hP⟩

theorem leadsTo_build_iff {id : String} :
    LeadsTo (q.build a).edges id ↔ TypeObject q.triples id :=
  exists_typeEdge_iff (P := fun _ target => target = id)

theorem comesFrom_build_iff {id : String} :
    ComesFrom (q.build a).edges id ↔ TypeSubject q.triples id :=
  exists_typeEdge_iff (P := fun source _ => source = id)

/-! ## Categories of a built graph -/

/-- The category of a node, in terms of its kind and the type edges. -/
theorem category_of_mem_nodes {n : Node} (h : n ∈ (q.build a).nodes) :
    n.category =
      if n.kind = .iri ∧ LeadsTo (q.build a).edges n.id then .ontologyClass
      else if n.kind ≠ .literal ∧ n.kind.category = .unknown ∧ ComesFrom (q.build a).edges n.id
        then .individual
      else n.kind.category := by
  obtain ⟨t, -, hn⟩ := find?_of_mem_nodes h
  rw [hn]
  rfl

/-- **A built graph gives each node its role.** -/
theorem category_eq_iff_hasRole {n : Node} (h : n ∈ (q.build a).nodes) (c : NodeCategory) :
    n.category = c ↔ HasRole q.triples n.kind n.id c := by
  rw [category_of_mem_nodes h]
  have hobject : LeadsTo (q.build a).edges n.id ↔ TypeObject q.triples n.id := leadsTo_build_iff
  have hsubject : ComesFrom (q.build a).edges n.id ↔ TypeSubject q.triples n.id :=
    comesFrom_build_iff
  cases hkind : n.kind with
  | var => cases c <;> simp [HasRole, NodeKind.category]
  | literal => cases c <;> simp [HasRole, NodeKind.category]
  | blank =>
      by_cases hcomes : ComesFrom (q.build a).edges n.id <;> cases c <;>
        simp [HasRole, NodeKind.category, ← hsubject, hcomes]
  | iri =>
      by_cases hleads : LeadsTo (q.build a).edges n.id
      · cases c <;> simp [HasRole, ← hobject, hleads]
      · by_cases hcomes : ComesFrom (q.build a).edges n.id <;> cases c <;>
          simp [HasRole, NodeKind.category, ← hobject, ← hsubject, hleads, hcomes]

/-! ## The order of the triples -/

theorem exists_endpoint_iff {P : Term → Prop} :
    (∃ t ∈ endpoints q.scopedTriples, P t) ↔ ∃ t ∈ q.triples, P t.subject ∨ P t.object := by
  simp only [mem_endpoints, triples, List.mem_map]
  constructor
  · rintro ⟨t, ⟨s, hs, rfl | rfl⟩, hP⟩
    · exact ⟨_, ⟨s, hs, rfl⟩, Or.inl hP⟩
    · exact ⟨_, ⟨s, hs, rfl⟩, Or.inr hP⟩
  · rintro ⟨_, ⟨s, hs, rfl⟩, hP | hP⟩
    · exact ⟨_, ⟨s, hs, Or.inl rfl⟩, hP⟩
    · exact ⟨_, ⟨s, hs, Or.inr rfl⟩, hP⟩

/-- A node has the kind of every endpoint with its id. -/
theorem kind_of_mem_nodes {n : Node} {t : Term} (h : n ∈ (q.build a).nodes) (ht : t.key = n.id) :
    n.kind = t.nodeKind := by
  obtain ⟨s, hs, hn⟩ := find?_of_mem_nodes h
  have hkey : s.key = n.id := by simpa using List.find?_some hs
  rw [hn]
  exact Term.nodeKind_eq_of_key_eq (hkey.trans ht.symm)

/-- An endpoint has a node, with its key and its kind. -/
theorem exists_node_of_endpoint {t : Term} (ht : t ∈ endpoints q.scopedTriples) :
    ∃ n ∈ (q.build a).nodes, (q.build a).node? t.key = some n ∧ n.id = t.key ∧
      n.kind = t.nodeKind := by
  obtain ⟨n, hn⟩ := exists_node?_key (a := a) ht
  have hmem := GraphModel.mem_of_node? hn
  have hid := GraphModel.id_of_node? hn
  exact ⟨n, hmem, hn, hid, kind_of_mem_nodes hmem hid.symm⟩

/-- **Graphs of the same triples have the same categories**, in whatever order and scopes the triples
stand. -/
theorem node?_category_eq {q' : Query} {a' : Annotations} (h : ∀ t, t ∈ q'.triples ↔ t ∈ q.triples)
    (id : String) :
    ((q'.build a').node? id).map Node.category = ((q.build a).node? id).map Node.category := by
  have hids : (∃ n, (q'.build a').node? id = some n) ↔ ∃ n, (q.build a).node? id = some n := by
    simp only [exists_node?_iff, exists_endpoint_iff, h]
  cases hn : (q.build a).node? id with
  | none =>
      rw [Option.map_none, Option.map_eq_none_iff, Option.eq_none_iff_forall_ne_some]
      intro n hn'
      obtain ⟨m, hm⟩ := hids.mp ⟨n, hn'⟩
      rw [hn] at hm
      exact Option.some_ne_none m hm.symm
  | some n =>
      obtain ⟨n', hn'⟩ := hids.mpr ⟨n, hn⟩
      have hid : n'.id = n.id :=
        (GraphModel.id_of_node? hn').trans (GraphModel.id_of_node? hn).symm
      have hmem := GraphModel.mem_of_node? hn
      have hmem' := GraphModel.mem_of_node? hn'
      obtain ⟨t, -, ht⟩ := exists_endpoint_of_mem_nodes hmem
      have hkind : n'.kind = n.kind := by
        rw [kind_of_mem_nodes hmem' (ht.trans hid.symm), kind_of_mem_nodes hmem ht]
      have hrole := (category_eq_iff_hasRole hmem n.category).mp rfl
      rw [← hasRole_congr h, ← hkind, ← hid] at hrole
      rw [hn', Option.map_some, Option.map_some, (category_eq_iff_hasRole hmem' _).mpr hrole]

/-! ## All of it -/

/-- **The categories of a graph are those that its triples give**, each exactly when `HasRole` says so.
An IRI on both sides of type triples is a class, be it in one triple or in several, while a blank node
there can only be an individual; variables and literals stay what they are; and any query with the same
set of triples has the same categories. -/
theorem category_of_triples (q : Query) (a : Annotations) :
    (∀ n ∈ (q.build a).nodes, ∀ c, n.category = c ↔ HasRole q.triples n.kind n.id c) ∧
    (∀ n ∈ (q.build a).nodes, n.kind = .iri → TypeSubject q.triples n.id →
      TypeObject q.triples n.id → n.category = .ontologyClass) ∧
    (∀ n ∈ (q.build a).nodes, n.kind = .var ∨ n.kind = .literal → n.category = n.kind.category) ∧
    ∀ (q' : Query) (a' : Annotations), (∀ t, t ∈ q'.triples ↔ t ∈ q.triples) → ∀ id,
      ((q'.build a').node? id).map Node.category = ((q.build a).node? id).map Node.category := by
  refine ⟨fun n hn => category_eq_iff_hasRole hn, ?_, ?_, fun q' a' h => node?_category_eq h⟩
  · intro n hn hkind _ hobject
    exact (category_eq_iff_hasRole hn _).mpr ⟨hkind, hobject⟩
  · rintro n hn (hkind | hkind)
    · rw [hkind]
      exact (category_eq_iff_hasRole hn .var).mpr hkind
    · rw [hkind]
      exact (category_eq_iff_hasRole hn .literal).mpr hkind

/-- A triple that gives its subject a class. -/
def typeTriple (subject object : Term) : Triple :=
  ⟨subject, .term (.iri Vocabulary.rdfType), object⟩

/-- An IRI and a blank node are instances of themselves, and a variable is one of the IRI. -/
def selfTypedQuery : Query := ofPatterns [.basic [typeTriple (.iri "c") (.iri "c"),
  typeTriple (.blank "b") (.blank "b"), typeTriple (.var "x") (.iri "c")]]

/-- The same triples from right to left, some of them optional. -/
def mirroredQuery : Query := ofPatterns [.optional [.basic [typeTriple (.var "x") (.iri "c"),
  typeTriple (.blank "b") (.blank "b")]], .basic [typeTriple (.iri "c") (.iri "c")]]

/-- The IRI is a class, the blank node an individual, the variable a variable, in either order. -/
theorem category_selfTypedQuery :
    (∃ n, (selfTypedQuery.build .standard).node? "iri:c" = some n ∧ n.category = .ontologyClass) ∧
    (∃ n, (selfTypedQuery.build .standard).node? "bnode:b" = some n ∧ n.category = .individual) ∧
    (∃ n, (selfTypedQuery.build .standard).node? "var:?x" = some n ∧ n.category = .var) ∧
    ∀ id, ((mirroredQuery.build .empty).node? id).map Node.category =
      ((selfTypedQuery.build .standard).node? id).map Node.category := by
  obtain ⟨hrole, hclass, hkept, hset⟩ := category_of_triples selfTypedQuery .standard
  have hends : ∀ t ∈ [Term.iri "c", .blank "b", .var "x"],
      t ∈ endpoints selfTypedQuery.scopedTriples := by
    show ∀ t ∈ _, t ∈ [_, _, _, _, _, _]
    simp [typeTriple]
  refine ⟨?_, ?_, ?_, hset _ _ ?_⟩
  · obtain ⟨n, hmem, hn, hid, hkind⟩ :=
      exists_node_of_endpoint (hends (.iri "c") (by simp))
    have htyped : typeTriple (.iri "c") (.iri "c") ∈ selfTypedQuery.triples :=
      List.mem_of_getElem? (i := 0) rfl
    exact ⟨n, hn, hclass n hmem hkind ⟨_, htyped, rfl, hid.symm⟩ ⟨_, htyped, rfl, hid.symm⟩⟩
  · obtain ⟨n, hmem, hn, hid, hkind⟩ :=
      exists_node_of_endpoint (hends (.blank "b") (by simp))
    have htyped : typeTriple (.blank "b") (.blank "b") ∈ selfTypedQuery.triples :=
      List.mem_of_getElem? (i := 1) rfl
    refine ⟨n, hn, (hrole n hmem .individual).mpr ⟨?_, Or.inr hkind, _, htyped, rfl, hid.symm⟩⟩
    rw [hkind]
    simp [Term.nodeKind]
  · obtain ⟨n, hmem, hn, -, hkind⟩ :=
      exists_node_of_endpoint (hends (.var "x") (by simp))
    refine ⟨n, hn, ?_⟩
    rw [hkept n hmem (Or.inl hkind), hkind]
    rfl
  · intro t
    show t ∈ [_, _, _] ↔ t ∈ [_, _, _]
    simp only [List.mem_cons, List.not_mem_nil, or_assoc, or_left_comm, or_comm]

end Query

end QueryGraph
