import Mathlib.Data.List.Forall2
import QueryGraph.Proofs.Graph.Roles
import QueryGraph.Proofs.Sparql.Agreement
import QueryGraph.Proofs.Sparql.Readable

/-!
# `Proofs.Graph.Entries` — from the entries of a document to the edges of its graph

Between a document and its graph stand two recursions: values are decoded to patterns, and the walk over
the patterns finds their triples. One walk over the values does the same. It meets the entries that are to
be triples, however they look, in the order of the document, and each of them gets an edge: none is lost,
none comes from elsewhere, and none is moved.

## Contents
- `tripleEntries`, `whereEntries` — the walk over the values.
- `finds_ofJson` — it meets the triples of the decoded patterns.
- `Edge.Draws`, `Query.forall₂_draws` — an edge for each of them.
- `Query.edges_draw_entries` — the main statement.
-/

namespace QueryGraph

open Json

/-! ## Entries -/

/-- The entries that are to be triples, in the order of the document: those of the `triples` of a basic
pattern, and those inside the entries of the `patterns` of the others. A branch of a union is an entry or
a list of entries. -/
def tripleEntries (v : Value) : List Value :=
  let nested := (v.elementsAt "patterns").attach
  match patternKind v with
  | "bgp" => v.elementsAt "triples"
  | "optional" | "group" | "graph" => nested.flatMap fun ⟨entry, _⟩ => tripleEntries entry
  | "union" => nested.flatMap fun ⟨branch, _⟩ =>
      (branchEntries branch).attach.flatMap fun ⟨entry, _⟩ => tripleEntries entry
  | _ => []
termination_by sizeOf v
decreasing_by
  · exact Value.sizeOf_lt_of_elementsAt ‹_›
  · exact Nat.lt_of_le_of_lt (sizeOf_le_of_branchEntries ‹_›) (Value.sizeOf_lt_of_elementsAt ‹_›)

/-- The entries of a WHERE clause, if it is an array. -/
def whereEntries (w : Value) : List Value := (w.asArray?.getD []).flatMap tripleEntries

theorem tripleEntries_eq (v : Value) :
    tripleEntries v =
      let nested := v.elementsAt "patterns"
      match patternKind v with
      | "bgp" => v.elementsAt "triples"
      | "optional" | "group" | "graph" => nested.flatMap tripleEntries
      | "union" => nested.flatMap fun branch => (branchEntries branch).flatMap tripleEntries
      | _ => [] := by
  rw [tripleEntries]
  simp

/-! ## Walking over decoded patterns -/

/-- The walk over a decoded pattern finds the triples that are decoded from some entries, wherever it
starts. -/
def Finds (p : Pattern) (entries : List Value) : Prop :=
  ∀ scope unions, (p.walk scope unions).triples.map ScopedTriple.triple = entries.map Triple.ofJson

theorem triples_walkAll {values : List Value} (h : ∀ v ∈ values, Finds (.ofJson v) (tripleEntries v))
    (scope : Scope) (unions : Nat) :
    (walkAll scope unions (values.map Pattern.ofJson)).triples.map ScopedTriple.triple =
      (values.flatMap tripleEntries).map Triple.ofJson := by
  induction values generalizing unions with
  | nil => rfl
  | cons v values ih =>
      rw [List.map_cons, walkAll, List.flatMap_cons, List.map_append]
      simp only [Walk.andThen, List.map_append]
      rw [h v List.mem_cons_self, ih fun w hw => h w (List.mem_cons_of_mem v hw)]

theorem triples_walkBranches {branches : List Value}
    (h : ∀ branch ∈ branches, ∀ v ∈ branchEntries branch, Finds (.ofJson v) (tripleEntries v))
    (scope : Scope) (union number unions : Nat) :
    (walkBranches scope union number unions
      (branches.map fun branch => (branchEntries branch).map Pattern.ofJson)).triples.map
        ScopedTriple.triple =
      (branches.flatMap fun branch => (branchEntries branch).flatMap tripleEntries).map
        Triple.ofJson := by
  induction branches generalizing number unions with
  | nil => rfl
  | cons branch branches ih =>
      rw [List.map_cons, walkBranches, List.flatMap_cons, List.map_append]
      simp only [Walk.andThen, List.map_append]
      rw [triples_walkAll (h branch List.mem_cons_self), ih fun b hb => h b (List.mem_cons_of_mem branch hb)]

theorem elementsAt_eq_nil {name : String} {v : Value} (h : ∀ entries, v.arrayAt? name ≠ some entries) :
    v.elementsAt name = [] := by
  rw [Value.elementsAt, Option.eq_none_iff_forall_ne_some.mpr h]
  rfl

/-- **The walk over a decoded pattern** meets the entries of its value. -/
theorem finds_ofJson (v : Value) : Finds (.ofJson v) (tripleEntries v) := by
  induction hsize : sizeOf v using Nat.strongRecOn generalizing v with
  | ind size ih =>
      subst hsize
      have hnested : ∀ e ∈ v.elementsAt "patterns", Finds (.ofJson e) (tripleEntries e) :=
        fun e he => ih _ (Value.sizeOf_lt_of_elementsAt he) e rfl
      have hbranches : ∀ branch ∈ v.elementsAt "patterns", ∀ e ∈ branchEntries branch,
          Finds (.ofJson e) (tripleEntries e) :=
        fun branch hbranch e he => ih _ (Nat.lt_of_le_of_lt (sizeOf_le_of_branchEntries he)
          (Value.sizeOf_lt_of_elementsAt hbranch)) e rfl
      intro scope unions
      rw [Pattern.ofJson_eq, tripleEntries_eq]
      dsimp only
      split
      case h_1 triples _ hkind htriples =>
          rw [hkind, Value.elementsAt, htriples]
          simp [Pattern.walk]
      case h_2 hkind hpatterns =>
          rw [hkind]
          exact triples_walkBranches hbranches scope _ _ _
      case h_3 hkind _ =>
          rw [hkind]
          exact triples_walkAll hnested _ _
      case h_4 hkind _ =>
          rw [hkind]
          exact triples_walkAll hnested _ _
      case h_5 hkind _ =>
          rw [hkind]
          exact triples_walkAll hnested _ _
      case h_6 hbgp hunion hoptional hgroup hgraph =>
          -- A pattern of a known kind has got here only because it has no list, and so no entries.
          rw [Pattern.walk]
          split
          case h_1 hkind => rw [elementsAt_eq_nil fun entries => hbgp entries hkind]; rfl
          case h_2 hkind => rw [elementsAt_eq_nil fun entries => hoptional entries hkind]; rfl
          case h_3 hkind => rw [elementsAt_eq_nil fun entries => hgroup entries hkind]; rfl
          case h_4 hkind => rw [elementsAt_eq_nil fun entries => hgraph entries hkind]; rfl
          case h_5 hkind => rw [elementsAt_eq_nil fun entries => hunion entries hkind]; rfl
          case h_6 => rfl

/-! ## Edges -/

/-- **An edge is drawn from an entry**: it joins the terms that are read from the entry, and it is judged by
the predicate and the object that are. -/
structure Edge.Draws (a : Annotations) (entry : Value) (e : Edge) : Prop where
  source : e.source = (Term.ofJson (position "subject" entry)).key
  target : e.target = (Term.ofJson (position "object" entry)).key
  category : e.category =
    edgeCategory a (Predicate.ofJson (position "predicate" entry)) (Term.ofJson (position "object" entry))

theorem Edge.map_ends_of_draws {a : Annotations} {entries : List Value} {es : List Edge}
    (h : List.Forall₂ (Edge.Draws a) entries es) :
    es.map Edge.ends = entries.map fun entry => (Triple.ofJson entry).ends := by
  induction h with
  | nil => rfl
  | cons hdraws _ ih =>
      rw [List.map_cons, List.map_cons, ih, Edge.ends, hdraws.source, hdraws.target]
      rfl

namespace Query

/-- An edge for each of some entries, if the triples are those that are read from them. -/
theorem forall₂_draws {q : Query} {entries : List Value} (h : q.triples = entries.map Triple.ofJson)
    (a : Annotations) : List.Forall₂ (Edge.Draws a) entries (q.build a).edges := by
  -- What is said of an edge, and of the triple that it is drawn for.
  let shown (e : Edge) := (e.source, e.target, e.category)
  let said (t : Triple) := (t.subject.key, t.object.key, edgeCategory a t.predicate t.object)
  have hedges : entries.map (said ∘ Triple.ofJson) = (q.build a).edges.map shown := by
    rw [← List.map_map, ← h, triples, List.map_map]
    exact (q.map_edges_build a fun _ _ => rfl).symm
  rw [← List.forall₂_eq_eq_eq, List.forall₂_map_left_iff, List.forall₂_map_right_iff] at hedges
  refine hedges.imp fun entry e hsame => ?_
  obtain ⟨hsource, hrest⟩ := Prod.mk.inj hsame
  obtain ⟨htarget, hcategory⟩ := Prod.mk.inj hrest
  exact ⟨hsource.symm, htarget.symm, hcategory.symm⟩

theorem triples_of_patterns {q : Query} {w : Option Value}
    (h : q.patterns = (w.bind Value.asArray?).map (List.map Pattern.ofJson)) :
    q.triples = ((w.map whereEntries).getD []).map Triple.ofJson := by
  rw [triples, scopedTriples, wherePatterns, h]
  cases w with
  | none => rfl
  | some w =>
      show ((flatten ((w.asArray?.map (List.map Pattern.ofJson)).getD [])).map ScopedTriple.triple) =
        (whereEntries w).map Triple.ofJson
      rw [whereEntries]
      cases w.asArray? with
      | none => rfl
      | some entries => exact triples_walkAll (fun v _ => finds_ofJson v) .root 0

/-- **The edges are those of the entries**, one for each and in their order: of any value that is entered
as the WHERE clause of a query, and of the WHERE clause of any document that can be decoded. Such a document
is loaded unless it names a section again or does not look like a query. -/
theorem edges_draw_entries :
    (∀ (w : Value) (q : Query) (a : Annotations),
      List.Forall₂ (Edge.Draws a) (whereEntries w) ((Section.patterns.enter q w).build a).edges) ∧
    ∀ (text : String) (v : Value), decode text = .ok v →
      (∃ q, ofText text = .ok q ∧ ∀ a, List.Forall₂ (Edge.Draws a)
        (((v.section? .patterns).map whereEntries).getD []) (q.build a).edges) ∨
      ∃ failure, ofText text = .error (.json failure) ∧
        ((∃ s : Section, failure.cause = .repeatedMember s.name) ∨ ¬ v.LooksLikeQuery) := by
  refine ⟨fun w q a => ?_, fun text v hv => ?_⟩
  · exact forall₂_draws (triples_of_patterns (w := some w) rfl) a
  · rcases ofText_of_decode hv with ⟨q, hload, hq⟩ | hrefused
    · refine Or.inl ⟨q, hload, fun a => forall₂_draws (triples_of_patterns ?_) a⟩
      rw [hq]
      rfl
    · exact Or.inr hrefused

/-- An entry with a list of entries. -/
def listing (kind name : String) (entries : List Value) : Value :=
  .object [("type", .string kind), (name, .array entries)]

/-- The value that a triple without a predicate is read from. -/
def bareTriple (s o : Term) : Value := .object [("subject", s.toJson), ("object", o.toJson)]

/-- A malformed triple and two others in branches of a union, one of which is no array, inside an OPTIONAL
block; and one more triple, behind a bracket too many. -/
def scatteredDocument : Value := .object [("where", .array [
  .array [listing "bgp" "triples" [bareTriple (.var "z") (.var "z")]],
  listing "optional" "patterns" [listing "union" "patterns" [
    .array [listing "bgp" "triples" [.null, bareTriple (.var "x") (.iri "y")]],
    listing "bgp" "triples" [bareTriple (.iri "y") (.var "x")]]]])]

theorem isExact_listing {kind name : String} {entries : List Value} (hname : name ≠ "type")
    (h : ∀ e ∈ entries, e.IsExact) : (listing kind name entries).IsExact :=
  isExact_typed hname (.array h)

theorem isExact_bareTriple (s o : Term) : (bareTriple s o).IsExact := by
  refine .object (by simp) ?_
  simp only [List.forall_mem_cons]
  exact ⟨s.isExact_toJson, o.isExact_toJson, by simp⟩

theorem isExact_scatteredDocument : scatteredDocument.IsExact := by
  have hnil : ∀ e ∈ ([] : List Value), e.IsExact := by simp
  have hspare : (Value.array [listing "bgp" "triples" [bareTriple (.var "z") (.var "z")]]).IsExact := by
    refine .array (List.forall_mem_singleton.mpr (isExact_listing (by decide) ?_))
    exact List.forall_mem_singleton.mpr (isExact_bareTriple _ _)
  refine .object (by simp) (List.forall_mem_singleton.mpr (.array ?_))
  refine List.forall_mem_cons.mpr ⟨hspare, List.forall_mem_singleton.mpr ?_⟩
  refine isExact_listing (by decide) (List.forall_mem_singleton.mpr (isExact_listing (by decide) ?_))
  simp only [List.forall_mem_cons]
  refine ⟨.array (List.forall_mem_singleton.mpr (isExact_listing (by decide) ?_)),
    isExact_listing (by decide) (List.forall_mem_singleton.mpr (isExact_bareTriple _ _)), hnil⟩
  exact List.forall_mem_cons.mpr ⟨.null, List.forall_mem_singleton.mpr (isExact_bareTriple _ _)⟩

theorem entries_scatteredDocument :
    ((scatteredDocument.section? .patterns).map whereEntries).getD [] =
      [.null, bareTriple (.var "x") (.iri "y"), bareTriple (.iri "y") (.var "x")] := by
  have harray : ∀ es, tripleEntries (.array es) = [] := by
    intro es
    rw [tripleEntries_eq]
    rfl
  have hbasic : ∀ es, tripleEntries (listing "bgp" "triples" es) = es := by
    intro es
    rw [tripleEntries_eq]
    rfl
  have hoptional : ∀ es, tripleEntries (listing "optional" "patterns" es) = es.flatMap tripleEntries := by
    intro es
    rw [tripleEntries_eq]
    rfl
  have hunion : ∀ es, tripleEntries (listing "union" "patterns" es) =
      es.flatMap fun branch => (branchEntries branch).flatMap tripleEntries := by
    intro es
    rw [tripleEntries_eq]
    rfl
  have hlist : ∀ es, branchEntries (.array es) = es := fun _ => rfl
  have hsingle : ∀ kind name es, branchEntries (listing kind name es) = [listing kind name es] :=
    fun _ _ _ => rfl
  show List.flatMap tripleEntries [_, _] = _
  simp only [List.flatMap_cons, List.flatMap_nil, harray, hoptional, hunion, hlist, hsingle, hbasic]
  rfl

/-- The malformed triple has an edge, and the one behind the bracket has none. -/
theorem edges_draw_scattered :
    ∃ q, ofText (String.ofList (scatteredDocument.write .pretty)) = .ok q ∧
      (q.build .standard).edges.map Edge.ends =
        [("term:unknown", "term:unknown"), ("var:?x", "iri:y"), ("iri:y", "var:?x")] := by
  have hdepth : scatteredDocument.depth ≤ depthLimit := by decide
  have hdecode : decode (String.ofList (scatteredDocument.write .pretty ++ [])) = .ok scatteredDocument :=
    decode_write isExact_scatteredDocument hdepth fun c hc => absurd hc List.not_mem_nil
  rw [List.append_nil] at hdecode
  rcases edges_draw_entries.2 _ _ hdecode with ⟨q, hload, hdraws⟩ | ⟨failure, hload, -⟩
  · refine ⟨q, hload, ?_⟩
    rw [Edge.map_ends_of_draws (hdraws .standard), entries_scatteredDocument]
    decide
  · rw [ofText_eq_ofSections isExact_scatteredDocument hdepth (Or.inl rfl)] at hload
    exact absurd hload (by simp)

end Query

end QueryGraph
