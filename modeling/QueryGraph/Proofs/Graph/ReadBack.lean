import QueryGraph.Graph.Document
import QueryGraph.Proofs.Json.Blanks
import QueryGraph.Proofs.Json.RoundTrip

/-!
# `Proofs.Graph.ReadBack` — a graph document holds the whole graph

Beside the writing of graphs stands their reading: members that are absent stand for what they would
have said, `false`, no branches or no graph name. Reading undoes writing, value by value; and since a
written value is decoded to itself in either layout, a document can come from one graph only.

Counts are written as integers, and those of more than 64 bits are not decoded as integers. The graphs
whose counts are words of 64 bits are the ones a program can hold.

## Contents
- `GraphModel.ofJson?` — the graph that a value stands for; `GraphModel.ofJson?_toJson`.
- `GraphModel.FitsWords` — counts are words.
- `GraphModel.isExact_toJson`, `GraphModel.depth_toJson_le` — the value of a graph can be decoded.
- `GraphModel.ReadsBack`, `GraphModel.readsBack_of_fitsWords` — what a document tells about its graph.
-/

namespace QueryGraph

open Json

/-! ## Reading members -/

/-- The truth value that a value is. -/
def Json.Value.asBool? : Value → Option Bool
  | .bool b => some b
  | _ => none

/-- The natural number that a value is. -/
def Json.Value.asNat? : Value → Option Nat
  | .number (.integer (.ofNat n)) => some n
  | _ => none

/-- What the elements of an array stand for. -/
def Json.Value.asListOf? {α : Type} (read : Value → Option α) (v : Value) : Option (List α) :=
  v.asArray?.bind fun elements => elements.mapM read

/-- What a member stands for: something known if there is no such member. -/
def readOr {α : Type} (absent : α) (read : Value → Option α) : Option Value → Option α
  | none => some absent
  | some v => read v

/-- The one of some things that is written as the given word. -/
def ofWord? {α : Type} (all : List α) (word : α → String) (text : String) : Option α :=
  all.find? fun a => word a = text

theorem mapM_map_eq_some {α β : Type} {write : α → β} {read : β → Option α} {xs : List α}
    (h : ∀ x ∈ xs, read (write x) = some x) : (xs.map write).mapM read = some xs := by
  induction xs with
  | nil => rfl
  | cons x xs ih =>
      have hx := h x List.mem_cons_self
      have hxs := ih fun y hy => h y (List.mem_cons_of_mem x hy)
      simp [hx, hxs]

/-! ## Reading graphs -/

/-- The declarations that an object of strings stands for. -/
def Prefixes.ofJson? : Value → Option Prefixes
  | .object ms => do
    let entries ← ms.mapM fun m => m.2.asString?.map (m.1, ·)
    if h : (entries.map Prod.fst).Nodup then some ⟨entries, h⟩ else none
  | _ => none

/-- The kind with the given word. -/
def NodeKind.ofWord? : String → Option NodeKind :=
  QueryGraph.ofWord? [.var, .iri, .blank, .literal] NodeKind.word

/-- The role with the given word. -/
def NodeCategory.ofWord? : String → Option NodeCategory :=
  QueryGraph.ofWord? [.ontologyClass, .individual, .literal, .var, .unknown] NodeCategory.word

/-- The category with the given word. -/
def EdgeCategory.ofWord? : String → Option EdgeCategory :=
  QueryGraph.ofWord? [.rdfType, .objectProperty, .datatypeProperty, .annotationProperty, .path]
    EdgeCategory.word

/-- The effect with the given word. -/
def EdgeEffect.ofWord? : String → Option EdgeEffect :=
  QueryGraph.ofWord? [.unchanged, .insert, .delete] EdgeEffect.word

/-- The node that an object stands for. -/
def Node.ofJson? (v : Value) : Option Node := do
  let id ← v.stringAt? "id"
  let label ← v.stringAt? "label"
  let kind ← (v.stringAt? "kind").bind NodeKind.ofWord?
  let category ← (v.stringAt? "category").bind NodeCategory.ofWord?
  let isSelected ← (v.get? "isSelectedVar").bind Value.asBool?
  return ⟨id, label, kind, category, isSelected⟩

/-- The union branch that an object stands for. -/
def BranchRef.ofJson? (v : Value) : Option BranchRef := do
  let union ← (v.get? "union").bind Value.asNat?
  let branch ← (v.get? "branch").bind Value.asNat?
  return ⟨union, branch⟩

/-- The edge that an object stands for. An edge is not optional, in no branch and in no graph unless a
member says so. -/
def Edge.ofJson? (v : Value) : Option Edge := do
  let id ← v.stringAt? "id"
  let source ← v.stringAt? "source"
  let target ← v.stringAt? "target"
  let label ← v.stringAt? "label"
  let category ← (v.stringAt? "category").bind EdgeCategory.ofWord?
  let effect ← (v.stringAt? "effect").bind EdgeEffect.ofWord?
  let optional ← readOr false Value.asBool? (v.get? "optional")
  let branches ← readOr [] (Value.asListOf? BranchRef.ofJson?) (v.get? "branches")
  let graph ← readOr none (fun name => name.asString?.map some) (v.get? "graph")
  return ⟨id, source, target, label, category, effect, optional, branches, graph⟩

/-- The graph that an object stands for. -/
def GraphModel.ofJson? (v : Value) : Option GraphModel := do
  let queryType ← v.stringAt? "queryType"
  let prefixes ← (v.get? "prefixes").bind Prefixes.ofJson?
  let nodes ← (v.get? "nodes").bind (Value.asListOf? Node.ofJson?)
  let edges ← (v.get? "edges").bind (Value.asListOf? Edge.ofJson?)
  let tripleCount ← (v.get? "whereTripleCount").bind Value.asNat?
  return ⟨queryType, prefixes, nodes, edges, tripleCount⟩

/-! ## Reading undoes writing -/

theorem asNat?_natToJson (n : Nat) : (natToJson n).asNat? = some n := rfl

theorem Prefixes.ofJson?_toJson (p : Prefixes) : ofJson? p.toJson = some p := by
  have hentries : (p.entries.map fun d => (d.1, Value.string d.2)).mapM
      (fun m => m.2.asString?.map (m.1, ·)) = some p.entries :=
    mapM_map_eq_some fun d _ => rfl
  simp [ofJson?, toJson, hentries, p.nodup]

theorem NodeKind.ofWord?_word (k : NodeKind) : ofWord? k.word = some k := by cases k <;> decide

theorem NodeCategory.ofWord?_word (c : NodeCategory) : ofWord? c.word = some c := by
  cases c <;> decide

theorem EdgeCategory.ofWord?_word (c : EdgeCategory) : ofWord? c.word = some c := by
  cases c <;> decide

theorem EdgeEffect.ofWord?_word (e : EdgeEffect) : ofWord? e.word = some e := by cases e <;> decide

theorem Node.ofJson?_toJson (n : Node) : ofJson? n.toJson = some n := by
  simp [ofJson?, toJson, Value.stringAt?, Value.get?, Value.members, List.lookup_cons, Value.asString?,
    Value.asBool?, NodeKind.ofWord?_word, NodeCategory.ofWord?_word]

theorem BranchRef.ofJson?_toJson (b : BranchRef) : ofJson? b.toJson = some b := by
  simp [ofJson?, toJson, Value.get?, Value.members, List.lookup_cons, asNat?_natToJson]

/-- The members that may be absent stand for what was left out. -/
theorem Edge.readOr_scopeMembers (e : Edge) :
    readOr false Value.asBool? (e.scopeMembers.lookup "optional") = some e.optional ∧
    readOr [] (Value.asListOf? BranchRef.ofJson?) (e.scopeMembers.lookup "branches") =
      some e.branches ∧
    readOr none (fun name => name.asString?.map some) (e.scopeMembers.lookup "graph") =
      some e.graph := by
  obtain ⟨id, source, target, label, category, effect, optional, branches, graph⟩ := e
  have hread : (branches.map BranchRef.toJson).mapM BranchRef.ofJson? = some branches :=
    mapM_map_eq_some fun b _ => b.ofJson?_toJson
  refine ⟨?_, ?_, ?_⟩
  · cases optional <;> cases branches <;> cases graph <;>
      simp [scopeMembers, List.lookup_cons, readOr, Value.asBool?]
  · cases optional <;> cases branches <;> cases graph <;>
      simp_all [scopeMembers, List.lookup_cons, readOr, Value.asListOf?, Value.asArray?]
  · cases optional <;> cases branches <;> cases graph <;>
      simp [scopeMembers, List.lookup_cons, readOr, Value.asString?]

theorem Edge.ofJson?_toJson (e : Edge) : ofJson? e.toJson = some e := by
  obtain ⟨hoptional, hbranches, hgraph⟩ := e.readOr_scopeMembers
  have hstring : ∀ text, (Value.string text).asString? = some text := fun _ => rfl
  simp [ofJson?, toJson, Value.stringAt?, Value.get?, Value.members, List.lookup_cons, hstring,
    EdgeCategory.ofWord?_word, EdgeEffect.ofWord?_word, hoptional, hbranches, hgraph]

/-- **Reading undoes writing.** -/
theorem GraphModel.ofJson?_toJson (g : GraphModel) : ofJson? g.toJson = some g := by
  have hnodes : (g.nodes.map Node.toJson).mapM Node.ofJson? = some g.nodes :=
    mapM_map_eq_some fun n _ => n.ofJson?_toJson
  have hedges : (g.edges.map Edge.toJson).mapM Edge.ofJson? = some g.edges :=
    mapM_map_eq_some fun e _ => e.ofJson?_toJson
  simp [ofJson?, toJson, Value.stringAt?, Value.get?, Value.members, List.lookup_cons, Value.asString?,
    Value.asListOf?, Value.asArray?, Prefixes.ofJson?_toJson, hnodes, hedges, asNat?_natToJson]

/-! ## Values of graphs -/

/-- The numbers of a union branch are words of 64 bits. -/
def BranchRef.FitsWords (b : BranchRef) : Prop := b.union < Nat.pow 2 64 ∧ b.branch < Nat.pow 2 64

instance (b : BranchRef) : Decidable b.FitsWords := inferInstanceAs (Decidable (_ ∧ _))

/-- The counts of a graph are words of 64 bits. -/
structure GraphModel.FitsWords (g : GraphModel) : Prop where
  tripleCount : g.tripleCount < Nat.pow 2 64
  branches : ∀ e ∈ g.edges, ∀ b ∈ e.branches, b.FitsWords

theorem isExact_natToJson {n : Nat} (h : n < Nat.pow 2 64) : (natToJson n).IsExact :=
  .integer ⟨by omega, by omega⟩

theorem Prefixes.isExact_toJson (p : Prefixes) : p.toJson.IsExact := by
  refine .object ?_ (List.forall_mem_map.mpr fun d _ => .string d.2)
  rw [List.map_map]
  exact p.nodup

theorem Node.isExact_toJson (n : Node) : n.toJson.IsExact := by
  refine .object (by simp) ?_
  simp only [List.forall_mem_cons]
  exact ⟨.string _, .string _, .string _, .string _, .bool _, by simp⟩

theorem BranchRef.isExact_toJson {b : BranchRef} (h : b.FitsWords) : b.toJson.IsExact := by
  refine .object (by simp) ?_
  simp only [List.forall_mem_cons]
  exact ⟨isExact_natToJson h.1, isExact_natToJson h.2, by simp⟩

theorem Edge.nodup_toJson (e : Edge) : (e.toJson.members.map Prod.fst).Nodup := by
  obtain ⟨id, source, target, label, category, effect, optional, branches, graph⟩ := e
  cases optional <;> cases branches <;> cases graph <;> simp [toJson, Value.members, scopeMembers]

theorem Edge.mem_scopeMembers {e : Edge} {m : String × Value} (h : m ∈ e.scopeMembers) :
    m = ("optional", .bool true) ∨ m = ("branches", .array (e.branches.map BranchRef.toJson)) ∨
      ∃ label, m = ("graph", .string label) := by
  simp only [scopeMembers, List.mem_append, Option.mem_toList, Option.map_eq_some_iff] at h
  rcases h with (h | h) | ⟨label, -, rfl⟩
  · split at h
    · exact Or.inl (List.mem_singleton.mp h)
    · simp at h
  · split at h
    · simp at h
    · exact Or.inr (Or.inl (List.mem_singleton.mp h))
  · exact Or.inr (Or.inr ⟨label, rfl⟩)

theorem Edge.isExact_toJson {e : Edge} (h : ∀ b ∈ e.branches, b.FitsWords) : e.toJson.IsExact := by
  have hbranches : (Value.array (e.branches.map BranchRef.toJson)).IsExact :=
    .array (List.forall_mem_map.mpr fun b hb => b.isExact_toJson (h b hb))
  have hscope : ∀ m ∈ e.scopeMembers, m.2.IsExact := by
    intro m hm
    rcases mem_scopeMembers hm with rfl | rfl | ⟨label, rfl⟩
    · exact .bool true
    · exact hbranches
    · exact .string label
  refine .object e.nodup_toJson ?_
  simp only [List.forall_mem_append, List.forall_mem_cons]
  exact ⟨⟨.string _, .string _, .string _, .string _, .string _, .string _, by simp⟩, hscope⟩

theorem GraphModel.isExact_toJson {g : GraphModel} (h : g.FitsWords) : g.toJson.IsExact := by
  refine .object (by simp) ?_
  simp only [List.forall_mem_cons]
  have hnodes : (Value.array (g.nodes.map Node.toJson)).IsExact :=
    .array (List.forall_mem_map.mpr fun n _ => n.isExact_toJson)
  have hedges : (Value.array (g.edges.map Edge.toJson)).IsExact :=
    .array (List.forall_mem_map.mpr fun e he => e.isExact_toJson (h.branches e he))
  exact ⟨.string _, g.prefixes.isExact_toJson, hnodes, hedges, isExact_natToJson h.tripleCount,
    by simp⟩

/-! ### Nesting -/

theorem Node.depth_toJson_le (n : Node) : n.toJson.depth ≤ 1 := by
  simp [toJson, Value.depth, membersDepth]

theorem BranchRef.depth_toJson_le (b : BranchRef) : b.toJson.depth ≤ 1 := by
  simp [toJson, natToJson, Value.depth, membersDepth]

theorem Edge.depth_toJson_le (e : Edge) : e.toJson.depth ≤ 3 := by
  have hbranches : (Value.array (e.branches.map BranchRef.toJson)).depth ≤ 2 :=
    depth_array_le_iff.mpr (List.forall_mem_map.mpr fun b _ => b.depth_toJson_le)
  have hscope : ∀ m ∈ e.scopeMembers, m.2.depth ≤ 2 := by
    intro m hm
    rcases mem_scopeMembers hm with rfl | rfl | ⟨label, rfl⟩
    · simp [Value.depth]
    · exact hbranches
    · simp [Value.depth]
  refine depth_object_le_iff.mpr ?_
  simp only [List.forall_mem_append, List.forall_mem_cons]
  exact ⟨by simp [Value.depth], hscope⟩

theorem Prefixes.depth_toJson_le (p : Prefixes) : p.toJson.depth ≤ 1 :=
  depth_object_le_iff.mpr (List.forall_mem_map.mpr fun d _ => by simp [Value.depth])

theorem GraphModel.depth_toJson_le (g : GraphModel) : g.toJson.depth ≤ 5 := by
  have hnodes : (Value.array (g.nodes.map Node.toJson)).depth ≤ 4 :=
    depth_array_le_iff.mpr
      (List.forall_mem_map.mpr fun n _ => Nat.le_trans n.depth_toJson_le (by decide))
  have hedges : (Value.array (g.edges.map Edge.toJson)).depth ≤ 4 :=
    depth_array_le_iff.mpr (List.forall_mem_map.mpr fun e _ => e.depth_toJson_le)
  have hprefixes := g.prefixes.depth_toJson_le
  refine depth_object_le_iff.mpr ?_
  simp only [List.forall_mem_cons]
  refine ⟨by simp [Value.depth], by omega, hnodes, hedges, by simp [natToJson, Value.depth], by simp⟩

/-! ## Documents -/

theorem GraphModel.decode_document {g : GraphModel} (h : g.FitsWords) (layout : Layout) :
    decode (g.document .json layout) = .ok g.toJson :=
  decode_write (isExact_toJson h) (Nat.le_trans g.depth_toJson_le (by decide)) (by simp [isBlank])

/-- What the documents of a graph tell about it. -/
structure GraphModel.ReadsBack (g : GraphModel) : Prop where
  /-- In either layout they are one JSON value with a line feed behind its closing brace, with or
  without which it is decoded to a value that stands for the graph. -/
  decodes : ∀ layout, ∃ text v, g.document .json layout = text ++ "\n" ∧
    text.toList.getLast? = some '\x7d' ∧ decode text = .ok v ∧
    decode (g.document .json layout) = .ok v ∧ ofJson? v = some g
  /-- The layouts differ in blanks outside of string literals only. -/
  blanks : (g.document .json .compact).toList =
    withoutBlanks .outside (g.document .json .pretty).toList ++ ['\n']
  /-- No other graph has such a document. -/
  eq_of_document_eq : ∀ other : GraphModel, other.FitsWords → ∀ layout layout',
    g.document .json layout = other.document .json layout' → g = other

/-- **A document holds the whole graph.** -/
theorem GraphModel.readsBack_of_fitsWords {g : GraphModel} (h : g.FitsWords) : g.ReadsBack where
  decodes layout := by
    have hexact := isExact_toJson h
    have hdepth : g.toJson.depth ≤ depthLimit := Nat.le_trans g.depth_toJson_le (by decide)
    refine ⟨String.ofList (g.toJson.write layout), g.toJson, ?_, ?_, ?_, decode_document h layout,
      g.ofJson?_toJson⟩
    · rw [document, Value.document, String.ofList_append]
      rfl
    · rw [String.toList_ofList, ← writeAt_zero, toJson, writeAt_object, getLast?_bracketed]
    · have hdecode : decode (String.ofList (g.toJson.write layout ++ [])) = .ok g.toJson :=
        decode_write hexact hdepth (by simp)
      rwa [List.append_nil] at hdecode
  blanks := by
    have hblanks : withoutBlanks .outside (g.document .json .pretty).toList =
        g.toJson.write .compact := withoutBlanks_document (isExact_toJson h)
    rw [hblanks, document, Value.document, String.toList_ofList]
    rfl
  eq_of_document_eq other hother layout layout' heq := by
    -- The one document is decoded to the values of both graphs.
    have hvalue : g.toJson = other.toJson := by
      have hdecode := decode_document h layout
      rw [heq, decode_document hother layout'] at hdecode
      exact (Except.ok.inj hdecode).symm
    have hread := g.ofJson?_toJson
    rw [hvalue, other.ofJson?_toJson] at hread
    exact (Option.some.inj hread).symm

/-- A graph with quotes, backslashes and control characters in its texts, and with an edge that says
everything an edge can say beside one that says nothing. -/
def quotedGraph : GraphModel where
  queryType := "SELECT"
  prefixes := Prefixes.ofList [("", "http://example.org/\"#\\"), ("é\n", "")]
  nodes := [⟨"v:s", "?s \t\u0001", .var, .individual, true⟩,
    ⟨"l:\"", "\"\\\"\"", .literal, .literal, false⟩]
  edges := [
    ⟨"e:0", "v:s", "l:\"", ": ,\x7b", .path, .unchanged, true,
      [⟨0, 1⟩, ⟨18446744073709551615, 0⟩], some ""⟩,
    ⟨"e:1", "v:s", "v:s", "\u001f", .rdfType, .delete, false, [], none⟩]
  tripleCount := 2

theorem readsBack_quotedGraph : quotedGraph.FitsWords ∧ quotedGraph.ReadsBack :=
  have hwords : quotedGraph.FitsWords := ⟨by decide, by decide⟩
  ⟨hwords, GraphModel.readsBack_of_fitsWords hwords⟩

end QueryGraph
