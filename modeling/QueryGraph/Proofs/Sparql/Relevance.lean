import QueryGraph.Proofs.Json.Alike
import QueryGraph.Sparql.Decode

/-!
# `Proofs.Sparql.Relevance` — what is read of a query

A query parser may write members that nobody reads, and it may write members in any order. Here it is
shown that this is so of all that is decoded: there is a list of names (`readNames`), and values that
look alike to whoever asks for these names only are decoded alike.

## Contents
- `readNames` — the names of the members that are read.
- `Term.ofJson_eq_of_alike`, `Predicate.ofJson_eq_of_alike`, `Triple.ofJson_eq_of_alike`,
  `Pattern.ofJson_eq_of_alike`, `Projection.ofJson_eq_of_alike` — one lemma for each decoder.
- `ofJson_eq_of_reorders` — the main statement.
-/

namespace QueryGraph

open Json

/-- The names of the members that are read of a pattern, a triple, a predicate, a term or a
projection. -/
def readNames : List String :=
  ["type", "triples", "patterns", "name", "subject", "predicate", "object", "termType", "value",
    "language", "datatype", "pathType", "items", "variable"]

variable {v w : Value}

/-! ## Terms -/

theorem textAt_eq_of_alike (h : Alike readNames v w) (name : String) (hname : name ∈ readNames) :
    textAt name v = textAt name w := by
  unfold textAt
  rw [h.bind_get? name hname Alike.scalarText?]

theorem nonEmptyText?_eq_of_alike (h : Alike readNames v w) (name : String)
    (hname : name ∈ readNames) : nonEmptyText? (v.get? name) = nonEmptyText? (w.get? name) := by
  unfold nonEmptyText?
  rw [h.bind_get? name hname Alike.scalarText?]

theorem Term.ofJson_eq_of_alike (h : Alike readNames v w) : Term.ofJson v = Term.ofJson w := by
  have hkind : v.stringAt? "termType" = w.stringAt? "termType" := h.stringAt? _ (by decide)
  have htext : textAt "value" v = textAt "value" w := textAt_eq_of_alike h _ (by decide)
  have hlanguage : nonEmptyText? (v.get? "language") = nonEmptyText? (w.get? "language") :=
    nonEmptyText?_eq_of_alike h _ (by decide)
  -- The datatype is a term itself, and only its text is read.
  have hdatatype : nonEmptyText? ((v.get? "datatype").bind (Value.get? "value")) =
      nonEmptyText? ((w.get? "datatype").bind (Value.get? "value")) := by
    rcases rel_cases (h.get? "datatype" (by decide)) with ⟨hv, hw⟩ | ⟨x, y, hv, hw, hxy⟩
    · rw [hv, hw]
    · rw [hv, hw]
      exact nonEmptyText?_eq_of_alike hxy _ (by decide)
  unfold Term.ofJson
  rw [hkind, htext, hlanguage, hdatatype]

/-! ## Triples -/

/-- Whether there is a term type is seen alike, because `null` looks like nothing but itself. -/
theorem hasTermType_eq_of_alike (h : Alike readNames v w) : hasTermType v = hasTermType w := by
  unfold hasTermType
  rcases rel_cases (h.get? "termType" (by decide)) with ⟨hv, hw⟩ | ⟨x, y, hv, hw, hxy⟩
  · rw [hv, hw]
  · rw [hv, hw]
    cases hxy <;> rfl

theorem Predicate.ofJson_eq_of_alike {v w : Value} (h : Alike readNames v w) :
    Predicate.ofJson v = Predicate.ofJson w := by
  have hitems : (v.elementsAt "items").map ofJson = (w.elementsAt "items").map ofJson :=
    map_eq_of_alike (h.elementsAt _ (by decide)) fun item _ other hitem => ofJson_eq_of_alike hitem
  rw [ofJson_eq, ofJson_eq, h.isObject, hasTermType_eq_of_alike h, Term.ofJson_eq_of_alike h,
    textAt_eq_of_alike h _ (by decide), hitems]
termination_by sizeOf v
decreasing_by exact Value.sizeOf_lt_of_elementsAt ‹_›

theorem position_alike (h : Alike readNames v w) (name : String) (hname : name ∈ readNames) :
    Alike readNames (position name v) (position name w) := by
  unfold position
  rcases rel_cases (h.get? name hname) with ⟨hv, hw⟩ | ⟨x, y, hv, hw, hxy⟩
  · rw [hv, hw]
    exact .same _
  · rw [hv, hw]
    exact hxy

theorem Triple.ofJson_eq_of_alike (h : Alike readNames v w) : Triple.ofJson v = Triple.ofJson w := by
  unfold Triple.ofJson
  rw [Term.ofJson_eq_of_alike (position_alike h "subject" (by decide)),
    Predicate.ofJson_eq_of_alike (position_alike h "predicate" (by decide)),
    Term.ofJson_eq_of_alike (position_alike h "object" (by decide))]

/-! ## Patterns -/

theorem branchEntries_alike (h : Alike readNames v w) :
    List.Forall₂ (Alike readNames) (branchEntries v) (branchEntries w) := by
  cases h with
  | same => exact List.forall₂_same.mpr fun e _ => .same e
  | array elements => exact elements
  | object members => exact .cons (.object members) .nil

/-- **Patterns that look alike** are read alike, because their entries are. -/
theorem Pattern.ofJson_eq_of_alike {v w : Value} (h : Alike readNames v w) :
    Pattern.ofJson v = Pattern.ofJson w := by
  have hkind : patternKind v = patternKind w := by
    unfold patternKind
    rw [h.stringAt? "type" (by decide)]
  have hname : Term.ofJson (position "name" v) = Term.ofJson (position "name" w) :=
    Term.ofJson_eq_of_alike (position_alike h _ (by decide))
  have hnested := h.elementsAt "patterns" (by decide)
  have hpatterns : (v.elementsAt "patterns").map ofJson = (w.elementsAt "patterns").map ofJson :=
    map_eq_of_alike hnested fun entry _ other hentry => ofJson_eq_of_alike hentry
  have hbranches : ((v.elementsAt "patterns").map fun branch => (branchEntries branch).map ofJson) =
      (w.elementsAt "patterns").map fun branch => (branchEntries branch).map ofJson :=
    map_eq_of_alike hnested fun branch _ other hbranch =>
      map_eq_of_alike (branchEntries_alike hbranch) fun entry _ other hentry => ofJson_eq_of_alike hentry
  rw [ofJson_eq, ofJson_eq]
  dsimp only
  rw [hkind, hname, hpatterns, hbranches]
  -- Only whether there is a list of entries is asked besides; what is in it has been compared.
  rcases rel_cases (h.arrayAt? "triples" (by decide)) with
      ⟨hts, hus⟩ | ⟨ts, us, hts, hus, halike⟩ <;>
    rcases rel_cases (h.arrayAt? "patterns" (by decide)) with
      ⟨hps, hqs⟩ | ⟨ps, qs, hps, hqs, -⟩ <;>
    rw [hts, hus, hps, hqs]
  · split <;> simp_all
  all_goals
    have htriples : ts.map Triple.ofJson = us.map Triple.ofJson :=
      map_eq_of_alike halike fun t _ u htu => Triple.ofJson_eq_of_alike htu
    split <;> simp_all
termination_by sizeOf v
decreasing_by
  · exact Value.sizeOf_lt_of_elementsAt ‹_›
  · exact Nat.lt_of_le_of_lt (sizeOf_le_of_branchEntries ‹_›) (Value.sizeOf_lt_of_elementsAt ‹_›)

/-! ## Projections -/

theorem SelectItem.ofJson_eq_of_alike (h : Alike readNames v w) :
    SelectItem.ofJson v = SelectItem.ofJson w := by
  have hkind : v.stringAt? "termType" = w.stringAt? "termType" := h.stringAt? _ (by decide)
  have htext : textAt "value" v = textAt "value" w := textAt_eq_of_alike h _ (by decide)
  unfold SelectItem.ofJson
  rw [hkind, htext]
  rcases rel_cases (h.get? "variable" (by decide)) with ⟨hv, hw⟩ | ⟨x, y, hv, hw, hxy⟩
  · rw [hv, hw]
  · have hnamed : Term.ofJson x = Term.ofJson y := Term.ofJson_eq_of_alike hxy
    rw [hv, hw]
    cases w.stringAt? "termType" with
    | none => simp only [hnamed]
    | some kind => split <;> simp_all

theorem isWildcard_eq_of_alike (h : Alike readNames v w) : isWildcard v = isWildcard w := by
  unfold isWildcard
  rw [h.asString?, h.stringAt? "termType" (by decide)]

/-- **Projections that look alike** are read alike, because their items are. -/
theorem Projection.ofJson_eq_of_alike (h : Alike readNames v w) :
    Projection.ofJson v = Projection.ofJson w := by
  cases h with
  | same => rfl
  | object members => rfl
  | @array vs ws elements =>
      have hwildcards : vs.map isWildcard = ws.map isWildcard :=
        map_eq_of_alike elements fun v _ w hvw => isWildcard_eq_of_alike hvw
      have hany : vs.any isWildcard = ws.any isWildcard := by
        simpa [List.any_map] using congrArg (List.any · id) hwildcards
      have hitems : vs.map SelectItem.ofJson = ws.map SelectItem.ofJson :=
        map_eq_of_alike elements fun v _ w hvw => SelectItem.ofJson_eq_of_alike hvw
      simp only [Projection.ofJson, hany, hitems]

/-! ## All that is decoded -/

/-- **Other members and the order of members never matter.** Take two values that differ in nothing but
members under names that are not read, at any depth, and in the order of the members of their objects:
as a pattern, a triple, a predicate, a term or a projection, the same is read of both. -/
theorem ofJson_eq_of_reorders (hv : v.NamesOnce) (h : (v.keep readNames).Reorders (w.keep readNames)) :
    Pattern.ofJson v = Pattern.ofJson w ∧ Triple.ofJson v = Triple.ofJson w ∧
    Predicate.ofJson v = Predicate.ofJson w ∧ Term.ofJson v = Term.ofJson w ∧
    Projection.ofJson v = Projection.ofJson w := by
  have halike : Alike readNames v w := alike_of_reorders hv h
  exact ⟨Pattern.ofJson_eq_of_alike halike, Triple.ofJson_eq_of_alike halike,
    Predicate.ofJson_eq_of_alike halike, Term.ofJson_eq_of_alike halike,
    Projection.ofJson_eq_of_alike halike⟩

/-- A union of a branch that is one pattern and a branch without any. -/
def terseUnion : Value :=
  .object [("type", .string "union"), ("patterns", .array [
    .object [("type", .string "bgp"), ("triples", .array [
      .object [("subject", .object [("termType", .string "Variable"), ("value", .string "x")])]])],
    .array []])]

/-- The same in another order, with members that nobody reads. -/
def wordyUnion : Value :=
  .object [("patterns", .array [
    .object [("triples", .array [
      .object [("subject", .object [("value", .string "x"), ("termType", .string "Variable")]),
        ("graph", .null)]]), ("line", .number (.integer 3)), ("type", .string "bgp")],
    .array []]), ("comment", .object [("type", .string "group")]), ("type", .string "union")]

theorem reorders_wordyUnion : (terseUnion.keep readNames).Reorders (wordyUnion.keep readNames) := by
  have hsubject := List.Perm.swap ("value", .string "x") ("termType", Value.string "Variable") []
  refine .object (List.Perm.swap _ _ _) rfl (.cons (.array ?_) (.cons (.refl _) .nil))
  refine .cons (.object (List.Perm.swap _ _ _) rfl ?_) (.cons (.refl _) .nil)
  refine .cons (.array (.cons (.object .rfl rfl ?_) .nil)) (.cons (.refl _) .nil)
  exact .cons (.object hsubject rfl (.cons (.refl _) (.cons (.refl _) .nil))) .nil

theorem ofJson_wordyUnion :
    terseUnion.NamesOnce ∧ (terseUnion.keep readNames).Reorders (wordyUnion.keep readNames) ∧
    Pattern.ofJson wordyUnion =
      .union [[.basic [⟨.var "x", .term .unknown, .unknown⟩]], []] := by
  have hnames : terseUnion.NamesOnce := by simp [terseUnion]
  refine ⟨hnames, reorders_wordyUnion, ?_⟩
  rw [← (ofJson_eq_of_reorders hnames reorders_wordyUnion).1]
  simp [terseUnion, Pattern.ofJson_eq, patternKind, branchEntries, Triple.ofJson, position,
    Predicate.ofJson_eq, Term.ofJson, textAt, Value.elementsAt, Value.arrayAt?, Value.stringAt?,
    Value.get?, Value.members, Value.asArray?, Value.asString?, Value.scalarText?, Value.isObject,
    List.lookup_cons]

end QueryGraph
