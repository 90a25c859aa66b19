import QueryGraph.Proofs.Json.Skip
import QueryGraph.Sparql.Load

/-!
# `Proofs.Sparql.Sections` — loading finds the sections of a query

A query is read while its text goes by: some sections through a value, the prefixes member by member,
and what is no section not at all. What comes out depends on the value that the text stands for and on
nothing else: each section is decoded from its own member, or from its own place in an array.

The loops over members and over places carry the query that the sections found so far make up
(`Query.ofSections`); one more section changes that query at the section and nowhere else.

## Contents
- `Value.section?` — where a section of a query is found in a value.
- `Query.ReadFrom` — a query whose sections are decoded from a value.
- `Prefixes.read_writeAt`, `Section.read_writeAt` — one section.
- `Query.readMember_writeAt`, `Query.readSections_lines` — one member, and the places of an array.
- `Query.readFrom_ofSections` — what the sections of a value make up is read from it.
- `Query.ofText_write` — the main statement.
-/

namespace QueryGraph

open Json

/-! ## Sections of a value -/

/-- The place of a section in an array. -/
def Section.position : Section → Nat
  | queryType => 0
  | kind => 1
  | prefixes => 2
  | projection => 3
  | patterns => 4

/-- The section with the given name or at the given place. -/
def Json.Value.section? (s : Section) : Value → Option Value
  | .object ms => ms.lookup s.name
  | .array vs => vs[s.position]?
  | _ => none

/-- The members of an object that are strings, in order. -/
def Json.Value.declarations (v : Value) : List (String × String) :=
  v.members.filterMap fun m => m.2.asString?.map fun ns => (m.1, ns)

/-- **A query is read from a value.** -/
structure Query.ReadFrom (q : Query) (v : Value) : Prop where
  /-- The query type is a string or absent. -/
  queryType : q.queryType = (v.section? .queryType).bind Value.asString?
  /-- So is the kind. -/
  kind : q.kind = (v.section? .kind).bind Value.asString?
  /-- The prefixes are the strings in an object. -/
  prefixes : q.prefixes.entries = ((v.section? .prefixes).map Value.declarations).getD []
  /-- There is no projection if nothing or `null` is there. -/
  projection : q.projection = match v.section? .projection with
    | none | some .null => none
    | some found => some (Projection.ofJson found)
  /-- The patterns are the elements of an array. -/
  patterns : q.patterns = ((v.section? .patterns).bind Value.asArray?).map (List.map Pattern.ofJson)

/-- The query that some sections make up. -/
def Query.ofSections (found : Section → Option Value) : Query where
  queryType := (found .queryType).bind Value.asString?
  kind := (found .kind).bind Value.asString?
  prefixes := Prefixes.ofList (((found .prefixes).map Value.declarations).getD [])
  projection := match found .projection with
    | none | some .null => none
    | some v => some (Projection.ofJson v)
  patterns := ((found .patterns).bind Value.asArray?).map (List.map Pattern.ofJson)

/-- Sections with one of them found anew. -/
def withSection (found : Section → Option Value) (s : Section) (v : Value) : Section → Option Value :=
  fun s' => if s' = s then some v else found s'

variable {layout : Layout} {depth fuel room : Nat}

/-! ## Prefix declarations -/

namespace Prefixes

theorem ofList_append_singleton (ds : List (String × String)) (d : String × String) :
    ofList (ds ++ [d]) = (ofList ds).insert d.1 d.2 := by
  rw [ofList, List.foldl_append]
  rfl

/-- Declarations with names of their own are kept as they are. -/
theorem entries_ofList {ds : List (String × String)} (h : (ds.map Prod.fst).Nodup) :
    (ofList ds).entries = ds := by
  have hfold : ∀ (ds : List (String × String)) (p : Prefixes),
      ((p.entries ++ ds).map Prod.fst).Nodup →
      (ds.foldl (fun p d => p.insert d.1 d.2) p).entries = p.entries ++ ds := by
    intro ds
    induction ds with
    | nil => exact fun p _ => (List.append_nil _).symm
    | cons d ds ih =>
        intro p hnodup
        have hinsert : (p.insert d.1 d.2).entries = p.entries ++ [d] :=
          Entries.set_of_not_mem (Entries.not_mem_of_nodup hnodup) d.2
        have hnext := ih (p.insert d.1 d.2)
        rw [hinsert, List.append_assoc, List.singleton_append] at hnext
        exact hnext hnodup
  exact hfold ds empty h

theorem nodup_declarations {v : Value} (hv : v.IsExact) : (v.declarations.map Prod.fst).Nodup := by
  have hnames : (v.members.map Prod.fst).Nodup := by
    cases hv with
    | object nodup members => exact nodup
    | null | bool _ | integer _ | string _ | array _ => exact List.nodup_nil
  rw [List.nodup_iff_pairwise_ne, List.pairwise_map] at hnames ⊢
  rw [Value.declarations, List.pairwise_filterMap]
  refine hnames.imp fun hne d hd d' hd' => ?_
  obtain ⟨ns, -, rfl⟩ := Option.map_eq_some_iff.mp hd
  obtain ⟨ns', -, rfl⟩ := Option.map_eq_some_iff.mp hd'
  exact hne

theorem read_append {bs : List Char} (hbs : ∀ c ∈ bs, isBlank c = true) (cs : List Char) :
    read fuel room (bs ++ cs) = read fuel room cs := by
  unfold read
  rw [skipBlanks_append hbs]

/-- A value that is neither an array nor an object declares nothing. -/
theorem read_scalar {v : Value} {c : Char} {cs rest : List Char}
    (hwritten : v.writeAt layout depth = c :: cs) (hc : isBlank c = false ∧ c ≠ '[' ∧ c ≠ '\x7b')
    (hvalue : readValue fuel room (v.writeAt layout depth ++ rest) = .ok (v, rest)) :
    read fuel room (v.writeAt layout depth ++ rest) = .ok (empty, rest) := by
  obtain ⟨hblank, hbracket, hbrace⟩ := hc
  rw [hwritten, List.cons_append] at hvalue ⊢
  rw [read, skipBlanks_cons hblank]
  split
  · rename_i h
    exact absurd (List.cons.inj h).1 hbracket
  · rename_i h
    exact absurd (List.cons.inj h).1 hbrace
  · rw [hvalue]
    rfl

/-- One more member declares its name if it is a string. -/
theorem ofList_declarations_append (done : List (String × Value)) (m : String × Value) :
    ofList (Value.object (done ++ [m])).declarations =
      m.2.asString?.elim (ofList (Value.object done).declarations)
        ((ofList (Value.object done).declarations).insert m.1) := by
  have hsplit : (Value.object (done ++ [m])).declarations =
      (Value.object done).declarations ++ (m.2.asString?.map fun ns => (m.1, ns)).toList := by
    cases hm : m.2.asString? <;> simp [Value.declarations, Value.members, hm]
  rw [hsplit]
  cases m.2.asString? with
  | none => exact congrArg ofList (List.append_nil _)
  | some ns => exact ofList_append_singleton _ _

/-- **Prefix declarations are read** from any written value. -/
theorem read_writeAt {v : Value} (hv : v.IsExact) (hroom : v.depth ≤ room)
    (hfuel : (v.writeAt layout depth).length < fuel) {rest : List Char} (hrest : EndsNumber rest) :
    read fuel room (v.writeAt layout depth ++ rest) = .ok (ofList v.declarations, rest) := by
  have hvalue := readValue_writeAt hv hroom hfuel hrest
  cases hv with
  | null => exact read_scalar writeAt_null (by decide) hvalue
  | bool b => cases b <;> exact read_scalar (writeAt_bool _) (by decide) hvalue
  | @integer n word =>
      obtain ⟨c, cs, hwritten, hc⟩ := writeInteger_eq_cons n
      refine read_scalar ((writeAt_number _).trans hwritten) ⟨isBlank_of_startsNumber hc, ?_, ?_⟩ hvalue
      all_goals
        rintro rfl
        exact absurd hc (by decide)
  | string text => exact read_scalar (writeAt_string text) (by decide) hvalue
  | @array vs elements =>
      obtain ⟨room, rfl, hdepth⟩ := exists_room_of_array hroom
      have hstep : ∀ done v todo, vs = done ++ v :: todo → ∀ rest, EndsNumber rest →
          skipElement fuel () (v.writeAt layout (depth + 1) ++ rest) = .ok ((), rest) := by
        intro done v todo hvs rest hrest
        have hv : v ∈ vs := by simp [hvs]
        have hskip := skipValue_writeAt (elements v hv) (Nat.lt_trans (length_element_lt hv) hfuel)
          (fun c hc => absurd hc List.not_mem_nil) hrest
        rw [List.nil_append] at hskip
        rw [skipElement, hskip]
        rfl
      obtain ⟨inner, htext, hloop⟩ := readElements_array (fun _ => ()) elements hfuel hstep rest
      rw [htext, read, skipBlanks_cons (by decide)]
      simp only [hloop]
      rfl
  | @object ms nodup members =>
      obtain ⟨room, rfl, hdepth⟩ := exists_room_of_object hroom
      have hstep : ∀ done m todo, ms = done ++ m :: todo → ∀ rest, EndsNumber rest →
          addDeclaration (readValue fuel room) (ofList (Value.object done).declarations) m.1
            (':' :: (layout.gap ++ (m.2.writeAt layout (depth + 1) ++ rest))) =
              .ok (ofList (Value.object (done ++ [m])).declarations, rest) := by
        intro done m todo hms rest hrest
        have hm : m ∈ ms := by simp [hms]
        have hread := readValue_writeAt (members m hm) (hdepth m hm)
          (Nat.lt_trans (length_member_lt hm) hfuel) hrest
        rw [addDeclaration, colon_cons]
        simp only [bind, Except.bind]
        rw [readValue_append (fun c => isBlank_of_mem_gap), hread, ofList_declarations_append]
        rfl
      obtain ⟨inner, htext, hloop⟩ :=
        readMembers_object (fun done => ofList (Value.object done).declarations) hfuel hstep rest
      rw [htext, read, skipBlanks_cons (by decide)]
      exact hloop

end Prefixes

/-! ## One section -/

namespace Section

theorem ofName?_eq_some_iff {text : String} {s : Section} : ofName? text = some s ↔ s.name = text := by
  constructor
  · intro h
    simpa using List.find?_some h
  · rintro rfl
    exact ofName?_name s

theorem name_inj {s s' : Section} : s.name = s'.name ↔ s = s' := by
  refine ⟨fun h => ?_, congrArg name⟩
  have hfound := ofName?_name s
  rw [h, ofName?_name s'] at hfound
  exact (Option.some.inj hfound).symm

theorem position_inj {s s' : Section} : s.position = s'.position ↔ s = s' := by
  cases s <;> cases s' <;> decide

/-- An array holds the sections in the order of their places. -/
theorem exists_drop_all_eq {n : Nat} (h : n < 5) :
    ∃ s : Section, s.position = n ∧ all.drop n = s :: all.drop (n + 1) := by
  match n, h with
  | 0, _ => exact ⟨queryType, rfl, rfl⟩
  | 1, _ => exact ⟨kind, rfl, rfl⟩
  | 2, _ => exact ⟨prefixes, rfl, rfl⟩
  | 3, _ => exact ⟨projection, rfl, rfl⟩
  | 4, _ => exact ⟨patterns, rfl, rfl⟩

/-- **A section is read** from any written value, and changes the query there only. -/
theorem read_writeAt {v : Value} (hv : v.IsExact) (hroom : v.depth ≤ room)
    (hfuel : (v.writeAt layout depth).length < fuel) {bs : List Char}
    (hbs : ∀ c ∈ bs, isBlank c = true) {rest : List Char} (hrest : EndsNumber rest)
    (found : Section → Option Value) (s : Section) :
    s.read fuel room (Query.ofSections found) (bs ++ (v.writeAt layout depth ++ rest)) =
      .ok (Query.ofSections (withSection found s v), rest) := by
  have hprefixes := Prefixes.read_writeAt hv hroom hfuel hrest
  have hvalue := readValue_writeAt hv hroom hfuel hrest
  cases s with
  | prefixes =>
      rw [read, Prefixes.read_append hbs, hprefixes]
      simp [bind, Except.bind, pure, Except.pure, Query.ofSections, withSection]
  | projection =>
      rw [read, readValue_append hbs, hvalue]
      · cases v <;> rfl
      · simp
  | queryType | kind | patterns =>
      rw [read, readValue_append hbs, hvalue]
      · rfl
      · simp

end Section

/-! ## Members -/

/-- One more member is found under its name. -/
theorem section?_object_append {done : List (String × Value)} {m : String × Value}
    (h : m.1 ∉ done.map Prod.fst) (s : Section) :
    (Value.object (done ++ [m])).section? s =
      if s.name = m.1 then some m.2 else (Value.object done).section? s := by
  obtain ⟨name, v⟩ := m
  simp only [Value.section?, List.lookup_append]
  by_cases hname : s.name = name
  · subst hname
    have hnone : done.lookup s.name = none := by
      refine List.lookup_eq_none_iff.mpr fun m hm => bne_iff_ne.mpr fun heq => ?_
      exact h (List.mem_map.mpr ⟨m, hm, heq.symm⟩)
    rw [hnone, if_pos rfl]
    simp
  · rw [if_neg hname]
    simp [List.lookup_cons, beq_eq_false_iff_ne.mpr hname]

namespace Query

/-- The sections among some members, the latest first. -/
def seenIn (done : List (String × Value)) : List Section :=
  (done.filterMap fun m => Section.ofName? m.1).reverse

/-- **A member is read**: its section changes the query if it is one, and nothing happens otherwise. -/
theorem readMember_writeAt {done : List (String × Value)} {m : String × Value}
    (hnew : m.1 ∉ done.map Prod.fst) (hv : m.2.IsExact) (hroom : m.2.depth ≤ room)
    (hfuel : (m.2.writeAt layout depth).length < fuel) {rest : List Char} (hrest : EndsNumber rest) :
    readMember fuel room (seenIn done, ofSections fun s => (Value.object done).section? s) m.1
      (':' :: (layout.gap ++ (m.2.writeAt layout depth ++ rest))) =
      .ok ((seenIn (done ++ [m]), ofSections fun s => (Value.object (done ++ [m])).section? s),
        rest) := by
  have hgap : ∀ c ∈ layout.gap, isBlank c = true := fun c => isBlank_of_mem_gap
  cases hs : Section.ofName? m.1 with
  | none =>
      -- No section is found under the name, so the value does not matter.
      have hseen : seenIn (done ++ [m]) = seenIn done := by simp [seenIn, hs]
      have hsections : (fun s => (Value.object (done ++ [m])).section? s) =
          fun s => (Value.object done).section? s := by
        funext s
        have hname : s.name ≠ m.1 := by
          intro heq
          rw [Section.ofName?_eq_some_iff.mpr heq] at hs
          exact Option.some_ne_none s hs
        rw [section?_object_append hnew, if_neg hname]
      rw [readMember, hs, colon_cons, hseen, hsections]
      simp only [bind, Except.bind]
      rw [skipValue_writeAt hv hfuel hgap hrest]
      rfl
  | some s =>
      have hname := Section.ofName?_eq_some_iff.mp hs
      have hseen : seenIn (done ++ [m]) = s :: seenIn done := by simp [seenIn, hs]
      -- A section that had been seen would have had a member with this name.
      have hunseen : s ∉ seenIn done := by
        intro hmem
        rw [seenIn, List.mem_reverse, List.mem_filterMap] at hmem
        obtain ⟨m', hm', hs'⟩ := hmem
        have hsame : m'.1 = m.1 := (Section.ofName?_eq_some_iff.mp hs').symm.trans hname
        exact hnew (List.mem_map.mpr ⟨m', hm', hsame⟩)
      have hsections : (fun s => (Value.object (done ++ [m])).section? s) =
          withSection (fun s => (Value.object done).section? s) s m.2 := by
        funext s'
        rw [section?_object_append hnew, ← hname]
        simp only [Section.name_inj, withSection]
      rw [readMember, hs, colon_cons, hseen, hsections]
      simp only [bind, Except.bind]
      rw [if_neg hunseen, Section.read_writeAt hv hroom hfuel hgap hrest]
      rfl

end Query

/-! ## Places -/

/-- One more element is found at the next place. -/
theorem section?_array_append {done : List Value} {s : Section} (hs : s.position = done.length)
    (v : Value) :
    (fun s => (Value.array (done ++ [v])).section? s) =
      withSection (fun s => (Value.array done).section? s) s v := by
  funext s'
  simp only [Value.section?, withSection]
  by_cases hsame : s' = s
  · rw [if_pos hsame, hsame, hs, List.getElem?_concat_length]
  · -- At another place, either both lists have the same element or neither has one.
    have hplace : s'.position ≠ done.length :=
      fun h => hsame (Section.position_inj.mp (h.trans hs.symm))
    rw [if_neg hsame, List.getElem?_append]
    split
    · rfl
    · rw [List.getElem?_eq_none (by simp only [List.length_singleton]; omega),
        List.getElem?_eq_none (by omega)]

namespace Query

theorem closeArray_blanks {bs : List Char} (hbs : ∀ c ∈ bs, isBlank c = true) (rest : List Char) :
    closeArray (bs ++ ']' :: rest) = .ok rest := by
  rw [closeArray, skipBlanks_append hbs, skipBlanks_cons (by decide)]
  rfl

/-- **The places of an array are read**, as many as are there. -/
theorem readSections_lines {vs : List Value} (hvs : ∀ v ∈ vs, v.IsExact)
    (hroom : ∀ v ∈ vs, v.depth ≤ room) (hfuel : ∀ v ∈ vs, (v.writeAt layout depth).length < fuel)
    (hcount : vs.length ≤ 5) {bs : List Char} (hbs : ∀ c ∈ bs, isBlank c = true) (rest : List Char) :
    readSections fuel room true empty Section.all
      (lines layout depth true (vs.map (Value.writeAt layout depth)) ++ (bs ++ ']' :: rest)) =
      .ok (ofSections fun s => (Value.array vs).section? s, rest) := by
  -- By induction on the elements still to be read; the sections to come begin behind those done.
  have hloop : ∀ todo done first, vs = done ++ todo →
      readSections fuel room first (ofSections fun s => (Value.array done).section? s)
        (Section.all.drop done.length)
        (lines layout depth first (todo.map (Value.writeAt layout depth)) ++ (bs ++ ']' :: rest)) =
        .ok (ofSections fun s => (Value.array vs).section? s, rest) := by
    intro todo
    induction todo with
    | nil =>
        intro done first hsplit
        rw [List.append_nil] at hsplit
        rw [List.map_nil, lines, List.nil_append, hsplit]
        cases Section.all.drop done.length with
        | nil =>
            rw [readSections, closeArray_blanks hbs]
            rfl
        | cons s sections =>
            rw [readSections, nextElement_close hbs]
            rfl
    | cons v todo ih =>
        intro done first hsplit
        have hv : v ∈ vs := by simp [hsplit]
        have hplace : done.length < 5 := by
          have hlength := congrArg List.length hsplit
          rw [List.length_append, List.length_cons] at hlength
          omega
        obtain ⟨s, hs, hsections⟩ := Section.exists_drop_all_eq hplace
        have hends : EndsNumber (lines layout depth false (todo.map (Value.writeAt layout depth)) ++
            (bs ++ ']' :: rest)) := endsNumber_lines hbs (endsNumber_cons (by decide) _) _
        have hread := s.read_writeAt (hvs v hv) (hroom v hv) (hfuel v hv)
          (fun c hc => absurd hc List.not_mem_nil) hends
        have hnext := ih (done ++ [v]) false (by simp [hsplit])
        rw [section?_array_append hs, List.length_append, List.length_singleton] at hnext
        rw [hsections, readSections, List.map_cons, nextElement_item (starts_writeAt (hvs v hv))]
        simp only [bind, Except.bind]
        rw [List.nil_append] at hread
        rw [hread]
        exact hnext
  exact hloop vs [] true rfl

/-! ## Queries -/

theorem isExact_of_section? {v found : Value} (hv : v.IsExact) {s : Section}
    (h : v.section? s = some found) : found.IsExact := by
  cases hv with
  | object nodup members =>
      obtain ⟨front, back, hsplit, -⟩ := List.lookup_eq_some_iff.mp h
      exact members (s.name, found) (by simp [hsplit])
  | array elements => exact elements found (List.mem_of_getElem? h)
  | null | bool _ | integer _ | string _ => exact absurd h (by simp [Value.section?])

/-- The sections of a value make up a query that is read from it. -/
theorem readFrom_ofSections {v : Value} (hv : v.IsExact) :
    (ofSections fun s => v.section? s).ReadFrom v where
  queryType := rfl
  kind := rfl
  prefixes := by
    refine Prefixes.entries_ofList ?_
    simp only
    cases hfound : v.section? .prefixes with
    | none => exact List.nodup_nil
    | some found => exact Prefixes.nodup_declarations (isExact_of_section? hv hfound)
  projection := rfl
  patterns := rfl

/-- A written object or short array is read as the query that its sections make up. -/
theorem read_writeAt {v : Value} (hv : v.IsExact) (hroom : v.depth ≤ room)
    (hshape : v.isObject = true ∨ ∃ vs, v = .array vs ∧ vs.length ≤ 5)
    (hfuel : (v.writeAt layout depth).length < fuel) (rest : List Char) :
    read fuel room (v.writeAt layout depth ++ rest) = .ok (ofSections fun s => v.section? s, rest) := by
  cases hv with
  | null | bool _ | integer _ | string _ => simp [Value.isObject] at hshape
  | @array vs elements =>
      obtain ⟨room, rfl, hdepth⟩ := exists_room_of_array hroom
      obtain ⟨bs, hbs, hwritten⟩ := writeAt_array_eq layout depth vs
      have hcount : vs.length ≤ 5 := by
        simpa [Value.isObject] using hshape
      have hread := readSections_lines elements hdepth
        (fun v hv => Nat.lt_trans (length_element_lt hv) hfuel) hcount hbs rest
      rw [hwritten, read, List.cons_append, skipBlanks_cons (by decide)]
      simp only [List.append_assoc, List.singleton_append]
      exact hread
  | @object ms nodup members =>
      obtain ⟨room, rfl, hdepth⟩ := exists_room_of_object hroom
      have hstep : ∀ done m todo, ms = done ++ m :: todo → ∀ rest, EndsNumber rest →
          readMember fuel room (seenIn done, ofSections fun s => (Value.object done).section? s) m.1
            (':' :: (layout.gap ++ (m.2.writeAt layout (depth + 1) ++ rest))) =
            .ok ((seenIn (done ++ [m]), ofSections fun s => (Value.object (done ++ [m])).section? s),
              rest) := by
        intro done m todo hms rest hrest
        have hm : m ∈ ms := by simp [hms]
        have hnew : m.1 ∉ done.map Prod.fst := Entries.not_mem_of_nodup (hms ▸ nodup)
        exact readMember_writeAt hnew (members m hm) (hdepth m hm)
          (Nat.lt_trans (length_member_lt hm) hfuel) hrest
      obtain ⟨inner, htext, hloop⟩ := readMembers_object
        (fun done => (seenIn done, ofSections fun s => (Value.object done).section? s)) hfuel hstep rest
      have hstart : (seenIn [], ofSections fun s => (Value.object []).section? s) = ([], empty) := rfl
      rw [hstart] at hloop
      rw [htext, read, skipBlanks_cons (by decide)]
      simp only [hloop]
      rfl

/-- Alone in a text it loads as this query. -/
theorem ofText_eq_ofSections {v : Value} (hv : v.IsExact) (hdepth : v.depth ≤ depthLimit)
    (hshape : v.isObject = true ∨ ∃ vs, v = .array vs ∧ vs.length ≤ 5) (layout : Layout) :
    ofText (String.ofList (v.write layout)) = .ok (ofSections fun s => v.section? s) := by
  have hread := read_writeAt hv hdepth hshape (Nat.lt_succ_self (v.writeAt layout 0).length) []
  rw [List.append_nil, writeAt_zero] at hread
  have hdocument : readDocument (fun fuel => read fuel depthLimit) (String.ofList (v.write layout)) =
      .ok (ofSections fun s => v.section? s) := by
    refine readDocument_eq_ok ?_ (fun c hc => absurd hc List.not_mem_nil)
    rw [String.toList_ofList]
    exact hread
  rw [ofText, hdocument]
  rfl

/-- **Loading never fails on a value that looks like a query, and reads it faithfully.** -/
theorem ofText_write {v : Value} (hv : v.IsExact) (hdepth : v.depth < 128)
    (hshape : v.isObject = true ∨ ∃ vs, v = .array vs ∧ vs.length ≤ 5) (layout : Layout) :
    ∃ q, ofText (String.ofList (v.write layout)) = .ok q ∧ q.ReadFrom v := by
  have hload := ofText_eq_ofSections hv (Nat.le_of_lt_succ hdepth) hshape layout
  exact ⟨_, hload, readFrom_ofSections hv⟩

/-- A query with its sections out of order, some of unexpected types, between members that are none. -/
def mixedDocument : Value := .object [
  ("\"where\"", .array [.object [("where", .bool false)], .number (.integer (-9223372036854775808))]),
  ("variables", .null),
  ("where", .array [.null, .object [("type", .string "\n")]]),
  ("prefixes", .object [("b", .string "\\"), ("", .array []), ("a", .string "")]),
  ("queryType", .number (.integer 18446744073709551615))]

theorem ofText_mixedDocument :
    mixedDocument.IsExact ∧ mixedDocument.depth < 128 ∧ mixedDocument.isObject = true ∧
    ∃ q, ofText (String.ofList (mixedDocument.write .pretty)) = .ok q ∧
      q.queryType = none ∧ q.kind = none ∧ q.prefixes.entries = [("b", "\\"), ("a", "")] ∧
      q.projection = none ∧ q.patterns = some [.other "", .other "\n"] := by
  have hexact : mixedDocument.IsExact := by
    have hempty : ∀ m ∈ ([] : List (String × Value)), m.2.IsExact := by simp
    refine .object (by decide) ?_
    simp only [List.forall_mem_cons]
    refine ⟨.array ?_, .null, .array ?_, .object (by decide) ?_, .integer (by decide), hempty⟩ <;>
      simp only [List.forall_mem_cons]
    · refine ⟨.object (by decide) ?_, .integer (by decide), by simp⟩
      simp only [List.forall_mem_cons]
      exact ⟨.bool false, hempty⟩
    · refine ⟨.null, .object (by decide) ?_, by simp⟩
      simp only [List.forall_mem_cons]
      exact ⟨.string _, hempty⟩
    · exact ⟨.string _, .array (by simp), .string _, hempty⟩
  have hdepth : mixedDocument.depth < 128 := by decide
  obtain ⟨q, hq, hread⟩ := ofText_write hexact hdepth (Or.inl rfl) .pretty
  refine ⟨hexact, hdepth, rfl, q, hq, hread.queryType, hread.kind, hread.prefixes, hread.projection, ?_⟩
  rw [hread.patterns]
  show some [Pattern.ofJson _, Pattern.ofJson _] = _
  rw [Pattern.ofJson_eq, Pattern.ofJson_eq]
  rfl

end Query

end QueryGraph
