import QueryGraph.Proofs.Graph.FirstSeen
import QueryGraph.Proofs.Graph.ReadBack
import QueryGraph.Proofs.Outcome
import QueryGraph.Proofs.Rdf.Compaction
import QueryGraph.Proofs.Sparql.Sections

/-!
# `Proofs.Sparql.Declarations` — what prefix declarations come to

A prefix may be declared more than once. The place of a name is that of its first declaration, and its
namespace that of its last one, however the declarations come about: one by one, from a list, or while
the text of an object goes by. In the text some members may be no declarations at all; a member of this
kind does not undo an earlier one of its name, so nothing can be read off the decoded object, in which a
name comes once. What counts is the list of all members (`listedMembers`).

## Contents
- `Prefixes.Records` — prefixes and the declarations that they come from.
- `Records.insert`, `Records.foldl_insert` — one more declaration, and some more.
- `Json.readMembers_map` — two loops over members that carry the same information.
- `listedMembers`, `listedMembers_write` — the members of an object, as often as they come.
- `ofText_of_listedMembers`, `ofText_toJson` — reading objects, and reading what has been written.
- `Prefixes.records_declared` — the main statement.
-/

namespace QueryGraph

open Json

namespace Prefixes

/-! ## Declarations in a row -/

/-- The namespace in the last declaration of a name. -/
def lastNamespace? (ds : List (String × String)) (name : String) : Option String :=
  ds.reverse.lookup name

/-- **Prefixes record some declarations.** -/
structure Records (p : Prefixes) (ds : List (String × String)) : Prop where
  /-- The names are those declared, each once, in the order of their first declarations. -/
  names : p.entries.map Prod.fst = (ds.map Prod.fst).eraseDups
  /-- A name stands with the namespace of its last declaration. -/
  namespaces : ∀ d ∈ p.entries, lastNamespace? ds d.1 = some d.2
  /-- This namespace is found under the name, and nothing under a name that is not declared. -/
  get? : ∀ name, p.get? name = lastNamespace? ds name
  /-- Every name counts once. -/
  size : p.size = (ds.map Prod.fst).eraseDups.length

variable {p : Prefixes} {ds : List (String × String)}

/-- The names in order and what is found under them are all there is to know. -/
theorem records_of_get? (hnames : p.entries.map Prod.fst = (ds.map Prod.fst).eraseDups)
    (hget : ∀ name, p.get? name = lastNamespace? ds name) : p.Records ds where
  names := hnames
  namespaces d hd := by
    rw [← hget]
    exact get?_of_mem hd
  get? := hget
  size := by rw [← hnames, List.length_map, Prefixes.size]

theorem lastNamespace?_append_singleton (ds : List (String × String)) (d : String × String)
    (name : String) :
    lastNamespace? (ds ++ [d]) name = if name = d.1 then some d.2 else lastNamespace? ds name := by
  rw [lastNamespace?, List.reverse_append, List.reverse_singleton, List.singleton_append,
    List.lookup_cons]
  by_cases h : name = d.1
  · rw [if_pos h, beq_iff_eq.mpr h]
  · rw [if_neg h, beq_eq_false_iff_ne.mpr h]
    rfl

/-- One more item is kept by `eraseDups` if it has not come before. -/
theorem eraseDups_append_singleton (names : List String) (name : String) :
    (names ++ [name]).eraseDups =
      if name ∈ names.eraseDups then names.eraseDups else names.eraseDups ++ [name] := by
  rw [List.eraseDups_append]
  by_cases h : name ∈ names <;> simp [List.removeAll, List.eraseDups_cons, h]

/-- Prefixes record the declarations that they hold. -/
theorem records_entries (p : Prefixes) : p.Records p.entries := by
  refine records_of_get? ?_ fun name => ?_
  · rw [← map_firstBy, firstBy_eq_self p.nodup]
  · exact Entries.lookup_eq_of_perm p.entries.reverse_perm.symm p.nodup name

/-- **One more declaration** is recorded, be its name new or not. -/
theorem Records.insert (h : p.Records ds) (d : String × String) :
    (p.insert d.1 d.2).Records (ds ++ [d]) := by
  refine records_of_get? ?_ fun name => ?_
  · rw [List.map_append, List.map_singleton, eraseDups_append_singleton, ← h.names]
    exact Entries.map_fst_set d.1 d.2 p.entries
  · rw [get?_insert, lastNamespace?_append_singleton, h.get?]

/-- **More declarations** are recorded one after the other. -/
theorem Records.foldl_insert (h : p.Records ds) (es : List (String × String)) :
    (es.foldl (fun p d => p.insert d.1 d.2) p).Records (ds ++ es) := by
  induction es generalizing p ds with
  | nil =>
      rw [List.append_nil]
      exact h
  | cons d es ih =>
      have hnext := ih (h.insert d)
      rw [List.append_assoc, List.singleton_append] at hnext
      exact hnext

theorem records_ofList (ds : List (String × String)) : (ofList ds).Records ds :=
  (records_entries empty).foldl_insert ds

end Prefixes

/-! ## The members of a text -/

namespace Json

/-- **Two loops over members** go the same way if every step of one is that of the other, seen through a
function of the states. -/
theorem readMembers_map {σ τ : Type} (f : σ → τ) {step : σ → String → Reader σ}
    {step' : τ → String → Reader τ}
    (h : ∀ state name cs, step' (f state) name cs =
      (step state name cs).map fun (state, rest) => (f state, rest))
    (fuel : Nat) (first : Bool) (state : σ) (cs : List Char) :
    readMembers step' fuel first (f state) cs =
      (readMembers step fuel first state cs).map fun (state, rest) => (f state, rest) := by
  induction fuel generalizing first state cs with
  | zero => rfl
  | succ fuel ih =>
      rw [readMembers, readMembers]
      cases nextName first cs with
      | error fault => rfl
      | ok found =>
          obtain ⟨name, rest⟩ := found
          cases name with
          | none => rfl
          | some name =>
              simp only [bind, Except.bind, h]
              cases step state name rest with
              | error fault => rfl
              | ok next => exact ih false next.1 next.2

/-- Reads the rest of a member, given how to read values, and lists it behind those before it. -/
def listMember (readValue : Reader Value) (done : List (String × Value)) (name : String)
    (cs : List Char) : Except Fault (Scanned (List (String × Value))) := do
  let (v, rest) ← readValue (← colon cs)
  return (done ++ [(name, v)], rest)

/-- Reads the members of an object, in the order of the text: a name that comes again is listed again. -/
def readListed (fuel room : Nat) (cs : List Char) : Except Fault (Scanned (List (String × Value))) :=
  match skipBlanks cs with
  | '\x7b' :: rest =>
    match room with
    | 0 => .error (.atNext .tooDeep ('\x7b' :: rest))
    | room + 1 => readMembers (listMember (readValue fuel room)) fuel true [] rest
  | cs => .error (.atNext .valueExpected cs)

/-- The members of the object that a text holds, in the order of the text. -/
def listedMembers (text : String) : Except Failure (List (String × Value)) :=
  readDocument (fun fuel => readListed fuel depthLimit) text

/-- **The members of a written object** are listed as they are, also if names are repeated. -/
theorem readListed_writeAt {layout : Layout} {depth fuel room : Nat} {ms : List (String × Value)}
    (hms : ∀ m ∈ ms, m.2.IsExact) (hroom : (Value.object ms).depth ≤ room)
    (hfuel : ((Value.object ms).writeAt layout depth).length < fuel) (rest : List Char) :
    readListed fuel room ((Value.object ms).writeAt layout depth ++ rest) = .ok (ms, rest) := by
  obtain ⟨room, rfl, hdepth⟩ := exists_room_of_object hroom
  have hstep : ∀ done m todo, ms = done ++ m :: todo → ∀ rest, EndsNumber rest →
      listMember (readValue fuel room) (id done) m.1
        (':' :: (layout.gap ++ (m.2.writeAt layout (depth + 1) ++ rest))) =
          .ok (id (done ++ [m]), rest) := by
    intro done m todo hsplit rest hrest
    have hm : m ∈ ms := by simp [hsplit]
    have hread := readValue_writeAt (hms m hm) (hdepth m hm)
      (Nat.lt_trans (length_member_lt hm) hfuel) hrest
    rw [listMember, colon_cons]
    simp only [bind, Except.bind]
    rw [readValue_append (fun c => isBlank_of_mem_gap), hread]
    rfl
  obtain ⟨inner, htext, hloop⟩ := readMembers_object id hfuel hstep rest
  rw [htext, readListed, skipBlanks_cons (by decide)]
  exact hloop

theorem listedMembers_write {ms : List (String × Value)} (hms : ∀ m ∈ ms, m.2.IsExact)
    (hdepth : (Value.object ms).depth ≤ depthLimit) (layout : Layout) :
    listedMembers (String.ofList ((Value.object ms).write layout)) = .ok ms := by
  have hread := readListed_writeAt hms hdepth
    (Nat.lt_succ_self ((Value.object ms).writeAt layout 0).length) []
  rw [List.append_nil, writeAt_zero] at hread
  refine readDocument_eq_ok ?_ (fun c hc => absurd hc List.not_mem_nil)
  rw [String.toList_ofList]
  exact hread

end Json

namespace Prefixes

/-! ## Declarations in a text -/

/-- A step of the reader of declarations is that of the reader of all members, of which the strings are
declared. -/
theorem addDeclaration_eq (readValue : Reader Value) (done : List (String × Value)) (name : String)
    (cs : List Char) :
    addDeclaration readValue (ofList (Value.object done).declarations) name cs =
      (listMember readValue done name cs).map fun (ms, rest) =>
        (ofList (Value.object ms).declarations, rest) := by
  rw [addDeclaration, listMember]
  cases colon cs with
  | error fault => rfl
  | ok cs =>
      simp only [bind, Except.bind]
      cases readValue cs with
      | error fault => rfl
      | ok found =>
          show _ = Except.ok (ofList (Value.object (done ++ [(name, found.1)])).declarations, found.2)
          rw [ofList_declarations_append]
          rfl

/-- **Declarations are read** from an object wherever its members are, namely those that are strings. -/
theorem read_of_readListed {fuel room : Nat} {cs rest : List Char} {ms : List (String × Value)}
    (h : readListed fuel room cs = .ok (ms, rest)) :
    read fuel room cs = .ok (ofList (Value.object ms).declarations, rest) := by
  rw [readListed] at h
  split at h
  case h_2 => exact absurd h (by simp)
  case h_1 inner hblanks =>
      cases room with
      | zero => exact absurd h (by simp)
      | succ room =>
          have hloop := readMembers_map (fun ms => ofList (Value.object ms).declarations)
            (addDeclaration_eq (readValue fuel room)) fuel true [] inner
          rw [show readMembers _ fuel true [] inner = .ok (ms, rest) from h] at hloop
          rw [read, hblanks]
          exact hloop

theorem ofText_of_listedMembers {text : String} {ms : List (String × Value)}
    (h : listedMembers text = .ok ms) :
    ofText text = .ok (ofList (Value.object ms).declarations) := by
  obtain ⟨⟨ms', rest⟩, hread, hend⟩ := bind_eq_ok_iff.mp (mapError_eq_ok_iff.mp h)
  refine mapError_eq_ok_iff.mpr (bind_eq_ok_iff.mpr ⟨_, read_of_readListed hread, ?_⟩)
  dsimp only at hend ⊢
  split at hend
  · cases hend
    rfl
  · exact absurd hend (by simp)

theorem declarations_toJson (p : Prefixes) : p.toJson.declarations = p.entries := by
  simp only [toJson, Value.declarations, Value.members, List.filterMap_map]
  exact List.filterMap_some

/-- **Written prefixes are read back**, in their order. -/
theorem ofText_toJson (p : Prefixes) (layout : Layout) :
    ofText (String.ofList (p.toJson.write layout)) = .ok p := by
  have hexact : p.toJson.IsExact := p.isExact_toJson
  have hdepth : p.toJson.depth ≤ depthLimit := Nat.le_trans p.depth_toJson_le (by decide)
  have hends : EndsNumber [] := fun _ hc => absurd hc (by simp)
  have hread := read_writeAt hexact hdepth (Nat.lt_succ_self (p.toJson.writeAt layout 0).length) hends
  rw [List.append_nil, declarations_toJson, writeAt_zero] at hread
  have hsame : ofList p.entries = p := Prefixes.ext (entries_ofList p.nodup)
  rw [hsame] at hread
  refine readDocument_eq_ok ?_ (fun c hc => absurd hc List.not_mem_nil)
  rw [String.toList_ofList]
  exact hread

/-! ## All ways of declaring -/

/-- **Prefixes record what has been declared**: more declarations behind any prefixes, a list of
declarations, and the members of an object that are strings, in the order of its text. Prefixes that are
written, in either layout, are read back as they were. -/
theorem records_declared :
    (∀ (p : Prefixes) (ds : List (String × String)),
      (ds.foldl (fun p d => p.insert d.1 d.2) p).Records (p.entries ++ ds)) ∧
    (∀ ds, (ofList ds).Records ds) ∧
    (∀ text ms, listedMembers text = .ok ms →
      ∃ p, ofText text = .ok p ∧ p.Records (Value.object ms).declarations) ∧
    (∀ ms layout, (∀ m ∈ ms, m.2.IsExact) → (Value.object ms).depth ≤ depthLimit →
      listedMembers (String.ofList ((Value.object ms).write layout)) = .ok ms) ∧
    ∀ (p : Prefixes) (layout : Layout), ofText (String.ofList (p.toJson.write layout)) = .ok p := by
  refine ⟨fun p ds => (records_entries p).foldl_insert ds, records_ofList, ?_, ?_, ofText_toJson⟩
  · intro text ms hlisted
    exact ⟨_, ofText_of_listedMembers hlisted, records_ofList _⟩
  · intro ms layout hms hdepth
    exact listedMembers_write hms hdepth layout

/-- Two names that are declared anew, one of them first and one of them last by a member that is no
string. -/
def redeclarations : List (String × Value) :=
  [("b", .array []), ("a", .string "1"), ("b", .string "2"), ("a", .string "3"), ("b", .string "4"),
    ("a", .null)]

theorem records_redeclarations :
    (∀ m ∈ redeclarations, m.2.IsExact) ∧ (Value.object redeclarations).depth ≤ depthLimit ∧
    ∃ p, ofText (String.ofList ((Value.object redeclarations).write .pretty)) = .ok p ∧
      p.entries.map Prod.fst = ["a", "b"] ∧ p.get? "a" = some "3" ∧ p.get? "b" = some "4" ∧
      p.get? "c" = none ∧ p.size = 2 := by
  obtain ⟨-, -, hread, hlisted, -⟩ := records_declared
  have hexact : ∀ m ∈ redeclarations, m.2.IsExact := by
    simp only [redeclarations, List.forall_mem_cons]
    exact ⟨.array (by simp), .string _, .string _, .string _, .string _, .null, by simp⟩
  have hdepth : (Value.object redeclarations).depth ≤ depthLimit := by decide
  obtain ⟨p, hp, hrecords⟩ := hread _ _ (hlisted redeclarations .pretty hexact hdepth)
  have hnames := hrecords.names
  have hsize := hrecords.size
  refine ⟨hexact, hdepth, p, hp, ?_, ?_, ?_, ?_, ?_⟩
  · rw [hnames]
    decide
  · rw [hrecords.get?]
    decide
  · rw [hrecords.get?]
    decide
  · rw [hrecords.get?]
    decide
  · rw [hsize]
    decide

end Prefixes

end QueryGraph
