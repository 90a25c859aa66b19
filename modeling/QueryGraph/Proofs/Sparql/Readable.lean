import QueryGraph.Proofs.Json.Lines
import QueryGraph.Proofs.Tree.Address
import QueryGraph.Sparql.Decode

/-!
# `Proofs.Sparql.Readable` — which patterns can be read

Any value is read as some pattern. The question here is the other one: which patterns are read from some
value. There is one thing that reading never gives, a literal whose language or datatype is there and
empty, because an empty text counts as none. All else is reached, at any depth and whatever the texts
are: beside the reading stands a writing that it undoes.

A written pattern says its kind and has the list that this kind needs. A pattern of another kind has no
list, so it is not drawn even when the kind it names is one that is drawn.

## Contents
- `Predicate.terms`, `Triple.terms`, `Pattern.terms` — the terms anywhere in a pattern.
- `Literal.IsProper`, `AllProper` — the literals among some terms have no empty tags.
- `Pattern.allProper_ofJson` — so it is with whatever is read.
- `Pattern.toJson`, `Pattern.ofJson_toJson` — what is so can be read.
- `Pattern.isExact_toJson` — from a value that a JSON text stands for.
- `Pattern.exists_ofJson_eq_iff` — the main statement.
-/

namespace QueryGraph

open Json

/-! ## Terms in a pattern -/

/-- The terms in a predicate: itself, or those in the operands of a path, down to any depth. -/
def Predicate.terms : Predicate → List Term
  | .term t => [t]
  | .path _ operands => operands.flatMap terms

/-- The terms in the three positions of a triple. -/
def Triple.terms (t : Triple) : List Term := t.subject :: (t.predicate.terms ++ [t.object])

/-- The terms in a pattern: those in its triples, graph names included, down to any depth. -/
def Pattern.terms : Pattern → List Term
  | .basic triples => triples.flatMap Triple.terms
  | .optional patterns | .group patterns => patterns.flatMap terms
  | .union branches => branches.flatMap fun patterns => patterns.flatMap terms
  | .graph name patterns => name :: patterns.flatMap terms
  | .other _ => []
decreasing_by
  · exact sizeOf_lt_of_mem_child (List.mem_singleton_self _) ‹_›
  · exact sizeOf_lt_of_mem_child (List.mem_singleton_self _) ‹_›
  · exact sizeOf_lt_of_mem_child ‹_ ∈ branches› ‹_›
  · exact sizeOf_lt_of_mem_child (List.mem_singleton_self _) ‹_›

/-- A literal whose language and datatype are not empty, if they are there. -/
def Literal.IsProper (l : Literal) : Prop := l.language ≠ some "" ∧ l.datatype ≠ some ""

/-- Every literal among some terms is proper. -/
def AllProper (ts : List Term) : Prop := ∀ l, .literal l ∈ ts → l.IsProper

@[simp] theorem allProper_nil : AllProper [] := by
  intro l hl
  exact absurd hl List.not_mem_nil

@[simp] theorem allProper_append {ts us : List Term} :
    AllProper (ts ++ us) ↔ AllProper ts ∧ AllProper us := by
  simp only [AllProper, List.mem_append, or_imp, forall_and]

theorem allProper_cons {t : Term} {ts : List Term} :
    AllProper (t :: ts) ↔ AllProper [t] ∧ AllProper ts := by
  rw [← List.singleton_append, allProper_append]

@[simp] theorem allProper_flatMap {α : Type} {xs : List α} {f : α → List Term} :
    AllProper (xs.flatMap f) ↔ ∀ x ∈ xs, AllProper (f x) := by
  unfold AllProper
  constructor
  · intro h x hx l hl
    exact h l (List.mem_flatMap.mpr ⟨x, hx, hl⟩)
  · intro h l hl
    obtain ⟨x, hx, hl⟩ := List.mem_flatMap.mp hl
    exact h x hx l hl

theorem allProper_literal {l : Literal} : AllProper [.literal l] ↔ l.IsProper := by
  simp [AllProper]

theorem allProper_singleton {t : Term} (h : ∀ l, t ≠ .literal l) : AllProper [t] := by
  intro l hl
  exact absurd (List.mem_singleton.mp hl).symm (h l)

/-! ## What is read is proper -/

/-- An empty text is read as none. -/
theorem nonEmptyText?_ne (v : Option Value) : nonEmptyText? v ≠ some "" := by
  intro h
  have hkept := (Option.filter_eq_some_iff.mp h).2
  simp at hkept

theorem Term.allProper_ofJson (v : Value) : AllProper [Term.ofJson v] := by
  unfold Term.ofJson
  split
  case h_4 => exact allProper_literal.mpr ⟨nonEmptyText?_ne _, nonEmptyText?_ne _⟩
  all_goals exact allProper_singleton fun l => by simp

theorem Predicate.allProper_ofJson (v : Value) : AllProper (Predicate.ofJson v).terms := by
  have hitems : ∀ item ∈ v.elementsAt "items", AllProper (Predicate.ofJson item).terms :=
    fun item hitem => allProper_ofJson item
  rw [ofJson_eq]
  split
  · rw [terms]
    exact allProper_singleton fun l => by simp
  · split
    · rw [terms]
      exact Term.allProper_ofJson v
    · simpa [terms] using hitems
termination_by sizeOf v
decreasing_by exact Value.sizeOf_lt_of_elementsAt hitem

theorem Triple.allProper_ofJson (v : Value) : AllProper (Triple.ofJson v).terms := by
  have hsubject := Term.allProper_ofJson (position "subject" v)
  have hpredicate := Predicate.allProper_ofJson (position "predicate" v)
  have hobject := Term.allProper_ofJson (position "object" v)
  rw [terms, allProper_cons, allProper_append]
  exact ⟨hsubject, hpredicate, hobject⟩

/-- **Whatever a pattern is read from**, its literals have no empty tags. -/
theorem Pattern.allProper_ofJson (v : Value) : AllProper (Pattern.ofJson v).terms := by
  have hentry : ∀ entry ∈ v.elementsAt "patterns", AllProper (Pattern.ofJson entry).terms :=
    fun entry hentry => allProper_ofJson entry
  have hbranch : ∀ branch ∈ v.elementsAt "patterns", ∀ entry ∈ branchEntries branch,
      AllProper (Pattern.ofJson entry).terms :=
    fun branch hbranch entry hentry => allProper_ofJson entry
  have hname := Term.allProper_ofJson (position "name" v)
  rw [ofJson_eq]
  dsimp only
  split
  case h_1 => simpa [terms] using fun t _ => Triple.allProper_ofJson t
  case h_2 => simpa [terms] using hbranch
  case h_3 => simpa [terms] using hentry
  case h_4 => simpa [terms] using hentry
  case h_5 =>
    rw [terms, allProper_cons]
    exact ⟨hname, by simpa using hentry⟩
  case h_6 => simp [terms]
termination_by sizeOf v
decreasing_by
  · exact Value.sizeOf_lt_of_elementsAt hentry
  · exact Nat.lt_of_le_of_lt (sizeOf_le_of_branchEntries hentry)
      (Value.sizeOf_lt_of_elementsAt hbranch)

/-! ## Writing patterns -/

/-- A text, or `null` if there is none. -/
def textOrNull : Option String → Value
  | some text => .string text
  | none => .null

/-- The value that a term is read from. -/
def Term.toJson : Term → Value
  | .var name => .object [("termType", .string "Variable"), ("value", .string name)]
  | .iri i => .object [("termType", .string "NamedNode"), ("value", .string i)]
  | .blank name => .object [("termType", .string "BlankNode"), ("value", .string name)]
  | .literal l =>
    .object [("termType", .string "Literal"), ("value", .string l.value),
      ("language", textOrNull l.language), ("datatype", .object [("value", textOrNull l.datatype)])]
  | .unknown => .null

/-- The value that a predicate is read from; a path has no term type. -/
def Predicate.toJson : Predicate → Value
  | .term t => t.toJson
  | .path operator operands =>
    .object [("type", .string "path"), ("pathType", .string operator),
      ("items", .array (operands.map toJson))]

/-- The object that a triple is read from. -/
def Triple.toJson (t : Triple) : Value :=
  .object [("subject", t.subject.toJson), ("predicate", t.predicate.toJson),
    ("object", t.object.toJson)]

/-- The object that a pattern is read from; each branch of a union is an array. -/
def Pattern.toJson : Pattern → Value
  | .basic triples =>
    .object [("type", .string "bgp"), ("triples", .array (triples.map Triple.toJson))]
  | .optional patterns =>
    .object [("type", .string "optional"), ("patterns", .array (patterns.map toJson))]
  | .union branches =>
    .object [("type", .string "union"),
      ("patterns", .array (branches.map fun patterns => .array (patterns.map toJson)))]
  | .group patterns =>
    .object [("type", .string "group"), ("patterns", .array (patterns.map toJson))]
  | .graph name patterns =>
    .object [("type", .string "graph"), ("name", name.toJson),
      ("patterns", .array (patterns.map toJson))]
  | .other kind => .object [("type", .string kind)]
decreasing_by
  · exact sizeOf_lt_of_mem_child (List.mem_singleton_self _) ‹_›
  · exact sizeOf_lt_of_mem_child ‹_ ∈ branches› ‹_›
  · exact sizeOf_lt_of_mem_child (List.mem_singleton_self _) ‹_›
  · exact sizeOf_lt_of_mem_child (List.mem_singleton_self _) ‹_›

/-! ## Reading undoes writing -/

theorem map_map_eq_self {α β : Type} {write : α → β} {read : β → α} {xs : List α}
    (h : ∀ x ∈ xs, read (write x) = x) : (xs.map write).map read = xs := by
  rw [List.map_map]
  calc xs.map (read ∘ write) = xs.map id := List.map_congr_left h
    _ = xs := List.map_id xs

theorem nonEmptyText?_textOrNull {tag : Option String} (h : tag ≠ some "") :
    nonEmptyText? (some (textOrNull tag)) = tag := by
  cases tag with
  | none => rfl
  | some text => simpa [nonEmptyText?, textOrNull, Value.scalarText?, Option.filter] using h

theorem Term.ofJson_toJson {t : Term} (h : AllProper [t]) : Term.ofJson t.toJson = t := by
  cases t with
  | literal l =>
      obtain ⟨hlanguage, hdatatype⟩ := allProper_literal.mp h
      have hread : Term.ofJson (literal l).toJson = .literal
          ⟨l.value, nonEmptyText? (some (textOrNull l.language)),
            nonEmptyText? (some (textOrNull l.datatype))⟩ := rfl
      rw [hread, nonEmptyText?_textOrNull hlanguage, nonEmptyText?_textOrNull hdatatype]
  | var _ | iri _ | blank _ | unknown => rfl

/-- The value of a term is read as a term, also where a path might stand. -/
theorem Predicate.ofJson_toJson_term (t : Term) :
    Predicate.ofJson t.toJson = .term (Term.ofJson t.toJson) := by
  rw [ofJson_eq]
  cases t <;> rfl

theorem Predicate.ofJson_toJson {p : Predicate} (h : AllProper p.terms) :
    Predicate.ofJson p.toJson = p := by
  induction p using Predicate.toJson.induct with
  | case1 t =>
      rw [terms] at h
      rw [toJson, ofJson_toJson_term, Term.ofJson_toJson h]
  | case2 operator operands ih =>
      rw [terms, allProper_flatMap] at h
      have hread : (operands.map toJson).map ofJson = operands :=
        map_map_eq_self fun operand hmem => ih operand hmem (h operand hmem)
      rw [toJson, ofJson_eq]
      show path operator ((operands.map toJson).map ofJson) = _
      rw [hread]

theorem Triple.ofJson_toJson {t : Triple} (h : AllProper t.terms) : Triple.ofJson t.toJson = t := by
  rw [terms, allProper_cons, allProper_append] at h
  obtain ⟨hsubject, hpredicate, hobject⟩ := h
  have hread : Triple.ofJson t.toJson = ⟨Term.ofJson t.subject.toJson,
      Predicate.ofJson t.predicate.toJson, Term.ofJson t.object.toJson⟩ := rfl
  rw [hread, Term.ofJson_toJson hsubject, Predicate.ofJson_toJson hpredicate,
    Term.ofJson_toJson hobject]

/-- A kind alone is not enough to be drawn, whichever it is. -/
theorem Pattern.ofJson_kind (kind : String) :
    Pattern.ofJson (.object [("type", .string kind)]) = .other kind := by
  have hkind : patternKind (.object [("type", .string kind)]) = kind := rfl
  have htriples : (Value.object [("type", .string kind)]).arrayAt? "triples" = none := rfl
  have hpatterns : (Value.object [("type", .string kind)]).arrayAt? "patterns" = none := rfl
  rw [ofJson_eq]
  dsimp only
  split <;> simp_all

/-- Patterns side by side are read if each of them is. -/
theorem Pattern.map_ofJson_toJson {ps : List Pattern}
    (ih : ∀ p ∈ ps, AllProper p.terms → Pattern.ofJson p.toJson = p)
    (h : AllProper (ps.flatMap terms)) : (ps.map toJson).map ofJson = ps := by
  rw [allProper_flatMap] at h
  exact map_map_eq_self fun p hp => ih p hp (h p hp)

/-- **A pattern without empty tags is read from the value written for it.** -/
theorem Pattern.ofJson_toJson {p : Pattern} (h : AllProper p.terms) : Pattern.ofJson p.toJson = p := by
  induction p using Pattern.toJson.induct with
  | case1 triples =>
      rw [terms, allProper_flatMap] at h
      have hread : (triples.map Triple.toJson).map Triple.ofJson = triples :=
        map_map_eq_self fun t ht => Triple.ofJson_toJson (h t ht)
      rw [toJson, ofJson_eq]
      show basic ((triples.map Triple.toJson).map Triple.ofJson) = _
      rw [hread]
  | case2 patterns ih =>
      rw [terms] at h
      rw [toJson, ofJson_eq]
      show optional ((patterns.map toJson).map ofJson) = _
      rw [map_ofJson_toJson ih h]
  | case3 branches ih =>
      rw [terms, allProper_flatMap] at h
      have hread : ((branches.map fun ps => Value.array (ps.map toJson)).map fun branch =>
          (branchEntries branch).map ofJson) = branches :=
        map_map_eq_self fun ps hps => map_ofJson_toJson (ih ps hps) (h ps hps)
      rw [toJson, ofJson_eq]
      show union ((branches.map fun ps => Value.array (ps.map toJson)).map fun branch =>
        (branchEntries branch).map ofJson) = _
      rw [hread]
  | case4 patterns ih =>
      rw [terms] at h
      rw [toJson, ofJson_eq]
      show group ((patterns.map toJson).map ofJson) = _
      rw [map_ofJson_toJson ih h]
  | case5 name patterns ih =>
      rw [terms, allProper_cons] at h
      obtain ⟨hname, hpatterns⟩ := h
      rw [toJson, ofJson_eq]
      show graph (Term.ofJson name.toJson) ((patterns.map toJson).map ofJson) = _
      rw [Term.ofJson_toJson hname, map_ofJson_toJson ih hpatterns]
  | case6 kind =>
      rw [toJson]
      exact ofJson_kind kind

/-! ## Written patterns as JSON values -/

theorem isExact_textOrNull (tag : Option String) : (textOrNull tag).IsExact := by
  cases tag with
  | none => exact .null
  | some text => exact .string text

theorem Term.isExact_toJson (t : Term) : t.toJson.IsExact := by
  cases t with
  | literal l =>
      have hdatatype : (Value.object [("value", textOrNull l.datatype)]).IsExact :=
        .object (by simp) (by simpa using isExact_textOrNull l.datatype)
      refine .object (by simp) ?_
      simp only [List.forall_mem_cons]
      exact ⟨.string _, .string _, isExact_textOrNull _, hdatatype, by simp⟩
  | var _ | iri _ | blank _ =>
      refine .object (by simp) ?_
      simp only [List.forall_mem_cons]
      exact ⟨.string _, .string _, by simp⟩
  | unknown => exact .null

theorem Predicate.isExact_toJson (p : Predicate) : p.toJson.IsExact := by
  induction p using Predicate.toJson.induct with
  | case1 t =>
      rw [toJson]
      exact t.isExact_toJson
  | case2 operator operands ih =>
      rw [toJson]
      refine .object (by simp) ?_
      simp only [List.forall_mem_cons]
      exact ⟨.string _, .string _, .array (List.forall_mem_map.mpr ih), by simp⟩

theorem Triple.isExact_toJson (t : Triple) : t.toJson.IsExact := by
  refine .object (by simp) ?_
  simp only [List.forall_mem_cons]
  exact ⟨t.subject.isExact_toJson, t.predicate.isExact_toJson, t.object.isExact_toJson, by simp⟩

/-- An object with a type and one more member. -/
theorem isExact_typed {kind name : String} {v : Value} (hname : name ≠ "type") (hv : v.IsExact) :
    (Value.object [("type", .string kind), (name, v)]).IsExact := by
  refine .object (by simpa using hname.symm) ?_
  simp only [List.forall_mem_cons]
  exact ⟨.string _, hv, by simp⟩

/-- **The value written for a pattern is a JSON value**: no object has two members of one name. -/
theorem Pattern.isExact_toJson (p : Pattern) : p.toJson.IsExact := by
  induction p using Pattern.toJson.induct with
  | case1 triples =>
      rw [toJson]
      exact isExact_typed (by decide) (.array (List.forall_mem_map.mpr fun t _ => t.isExact_toJson))
  | case2 patterns ih | case4 patterns ih =>
      rw [toJson]
      exact isExact_typed (by decide) (.array (List.forall_mem_map.mpr ih))
  | case3 branches ih =>
      have hbranches : ∀ ps ∈ branches, (Value.array (ps.map toJson)).IsExact :=
        fun ps hps => .array (List.forall_mem_map.mpr (ih ps hps))
      rw [toJson]
      exact isExact_typed (by decide) (.array (List.forall_mem_map.mpr hbranches))
  | case5 name patterns ih =>
      rw [toJson]
      refine .object (by simp) ?_
      simp only [List.forall_mem_cons]
      exact ⟨.string _, name.isExact_toJson, .array (List.forall_mem_map.mpr ih), by simp⟩
  | case6 kind =>
      rw [toJson]
      refine .object (by simp) ?_
      simp only [List.forall_mem_cons]
      exact ⟨.string kind, by simp⟩

/-! ## Which patterns are read -/

/-- **The patterns that are read from some value** are those in which no literal, wherever it stands, has
an empty language or an empty datatype. It makes no difference whether all values are asked for or only
those that a text stands for. -/
theorem Pattern.exists_ofJson_eq_iff (p : Pattern) :
    ((∃ v : Value, Pattern.ofJson v = p) ↔ AllProper p.terms) ∧
    ((∃ v : Value, v.IsExact ∧ Pattern.ofJson v = p) ↔ AllProper p.terms) := by
  have hproper : (∃ v : Value, Pattern.ofJson v = p) → AllProper p.terms := by
    rintro ⟨v, rfl⟩
    exact allProper_ofJson v
  have hread : AllProper p.terms → ∃ v : Value, v.IsExact ∧ Pattern.ofJson v = p :=
    fun h => ⟨p.toJson, p.isExact_toJson, ofJson_toJson h⟩
  refine ⟨⟨hproper, fun h => ?_⟩, ⟨fun h => hproper ?_, hread⟩⟩
  · obtain ⟨v, -, hv⟩ := hread h
    exact ⟨v, hv⟩
  · obtain ⟨v, -, hv⟩ := h
    exact ⟨v, hv⟩

end QueryGraph
