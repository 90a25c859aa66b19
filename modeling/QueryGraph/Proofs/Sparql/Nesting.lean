import QueryGraph.Proofs.Json.Room
import QueryGraph.Proofs.Sparql.Readable
import QueryGraph.Proofs.Sparql.Sections
import QueryGraph.Proofs.Tree.Nesting

/-!
# `Proofs.Sparql.Nesting` — loaded queries are nested no deeper than 63 levels

A pattern inside another one costs two brackets, an object and the array in it; a branch of a union that
is an array costs one more. So the room of a reader bounds the nesting of whatever is decoded from what
it has read, and the bound is carried from the value under `where` to the query, through members or
through the places of an array.

## Contents
- `exists_entries_of_mem_children` — the patterns inside a decoded pattern are decoded from values that
  are less deep by two.
- `fitsIn_map_ofJson` — patterns that are decoded from values of some depth.
- `Section.fitsIn_of_read`, `Query.fitsIn_of_readMember`, `Query.fitsIn_of_readSections`,
  `Query.fitsIn_of_read` — queries read in limited room.
- `Query.nesting_of_ofText` — the main statement.
-/

namespace QueryGraph

open Json

variable {n fuel : Nat} {cs rest : List Char}

/-! ## Decoded patterns -/

/-- What is in an array under a name is less deep by two, and there are two brackets even if nothing is
in it. -/
theorem depth_of_arrayAt? {name : String} {v : Value} {entries : List Value}
    (h : v.arrayAt? name = some entries) : 2 ≤ v.depth ∧ ∀ e ∈ entries, e.depth + 2 ≤ v.depth := by
  obtain ⟨found, hfound, harray⟩ := Option.bind_eq_some_iff.mp h
  cases found with
  | array vs =>
      cases harray
      cases v with
      | object ms =>
          obtain ⟨front, back, hsplit, -⟩ := List.lookup_eq_some_iff.mp hfound
          have hmem : (name, Value.array entries) ∈ ms := by
            show _ ∈ (Value.object ms).members
            rw [hsplit]
            simp
          have harray : (Value.array entries).depth ≤ membersDepth ms :=
            membersDepth_le_iff.mp (Nat.le_refl _) _ hmem
          simp only [Value.depth] at harray ⊢
          refine ⟨by omega, fun e he => ?_⟩
          have helement : e.depth ≤ elementsDepth entries :=
            elementsDepth_le_iff.mp (Nat.le_refl _) e he
          omega
      | _ => simp [Value.get?, Value.members] at hfound
  | _ => simp [Value.asArray?] at harray

theorem depth_of_branchEntries {branch e : Value} (h : e ∈ branchEntries branch) :
    e.depth ≤ branch.depth := by
  cases branch with
  | array entries =>
      have helement : e.depth ≤ elementsDepth entries := elementsDepth_le_iff.mp (Nat.le_refl _) e h
      rw [Value.depth]
      omega
  | _ =>
      obtain rfl := List.mem_singleton.mp h
      exact Nat.le_refl _

/-- **The patterns inside a decoded pattern** are decoded from values that are less deep by two. -/
theorem exists_entries_of_mem_children {v : Value} {qs : List Pattern}
    (h : qs ∈ (Pattern.ofJson v).children) :
    2 ≤ v.depth ∧ ∃ entries : List Value, qs = entries.map Pattern.ofJson ∧
      ∀ e ∈ entries, e.depth + 2 ≤ v.depth := by
  rw [Pattern.ofJson_eq] at h
  dsimp only at h
  split at h
  case h_1 => simp [Pattern.children] at h
  case h_6 => simp [Pattern.children] at h
  case h_2 hkind hpatterns =>
      obtain ⟨hdepth, hentries⟩ := depth_of_arrayAt? hpatterns
      obtain ⟨branch, hbranch, rfl⟩ := List.mem_map.mp h
      rw [Value.elementsAt, hpatterns] at hbranch
      -- A branch that is an array has a bracket of its own, which only makes its entries less deep.
      refine ⟨hdepth, branchEntries branch, rfl, ?_⟩
      intro e he
      have hle := depth_of_branchEntries he
      have hlt := hentries branch hbranch
      omega
  all_goals
    rename_i hkind hpatterns
    obtain ⟨hdepth, hentries⟩ := depth_of_arrayAt? hpatterns
    rw [Value.elementsAt, hpatterns] at h
    exact ⟨hdepth, _, List.mem_singleton.mp h, hentries⟩

/-- **Patterns decoded from values of some depth** have as many levels as pairs of brackets fit. -/
theorem fitsIn_map_ofJson {entries : List Value} (h : ∀ e ∈ entries, e.depth ≤ 2 * n + 1) :
    FitsIn (n + 1) (entries.map Pattern.ofJson) := by
  induction n generalizing entries with
  | zero =>
      intro p hp qs hqs
      obtain ⟨e, he, rfl⟩ := List.mem_map.mp hp
      have hdeep := (exists_entries_of_mem_children hqs).1
      have hflat := h e he
      omega
  | succ n ih =>
      intro p hp qs hqs
      obtain ⟨e, he, rfl⟩ := List.mem_map.mp hp
      obtain ⟨-, inner, rfl, hinner⟩ := exists_entries_of_mem_children hqs
      apply ih
      intro e' he'
      have houter := h e he
      have hless := hinner e' he'
      omega

/-! ## Queries -/

/-- A section that is decoded from a value of limited depth. -/
theorem Section.fitsIn_enter {q : Query} {v : Value} (hq : FitsIn (n + 1) q.wherePatterns)
    (hv : v.depth ≤ 2 * n + 2) (s : Section) : FitsIn (n + 1) (s.enter q v).wherePatterns := by
  cases s with
  | queryType | kind | prefixes | projection => exact hq
  | patterns =>
      cases v with
      | array entries => exact fitsIn_map_ofJson (depth_array_le_iff.mp hv)
      | _ => exact fitsIn_nil n

/-- **A section that is read** in limited room. -/
theorem Section.fitsIn_of_read {q q' : Query} {s : Section} (hq : FitsIn (n + 1) q.wherePatterns)
    (h : s.read fuel (2 * n + 2) q cs = .ok (q', rest)) : FitsIn (n + 1) q'.wherePatterns := by
  by_cases hs : s = .prefixes
  · subst hs
    obtain ⟨⟨p, rest'⟩, -, hread⟩ := bind_eq_ok_iff.mp h
    cases hread
    exact hq
  · -- All sections but the prefixes are read through a value.
    have hvalue : (readValue fuel (2 * n + 2) cs >>= fun x => pure (s.enter q x.1, x.2)) =
        .ok (q', rest) := by
      cases s <;> first | exact h | exact absurd rfl hs
    obtain ⟨⟨v, rest'⟩, hv, hread⟩ := bind_eq_ok_iff.mp hvalue
    cases hread
    exact fitsIn_enter hq (depth_le_of_readValue hv) s

namespace Query

/-- **A member that is read** in limited room. -/
theorem fitsIn_of_readMember {state after : List Section × Query} {name : String}
    (hstate : FitsIn (n + 1) state.2.wherePatterns)
    (h : readMember fuel (2 * n + 2) state name cs = .ok (after, rest)) :
    FitsIn (n + 1) after.2.wherePatterns := by
  obtain ⟨seen, q⟩ := state
  rw [readMember] at h
  split at h
  · obtain ⟨cs', -, h⟩ := bind_eq_ok_iff.mp h
    obtain ⟨rest', -, h⟩ := bind_eq_ok_iff.mp h
    cases h
    exact hstate
  · split at h
    · exact absurd h (by simp)
    · obtain ⟨cs', -, h⟩ := bind_eq_ok_iff.mp h
      obtain ⟨⟨q', rest'⟩, hread, h⟩ := bind_eq_ok_iff.mp h
      cases h
      exact Section.fitsIn_of_read hstate hread

/-- **The places of an array** that are read in limited room. -/
theorem fitsIn_of_readSections {sections : List Section} {first : Bool} {q q' : Query}
    (hq : FitsIn (n + 1) q.wherePatterns)
    (h : readSections fuel (2 * n + 2) first q sections cs = .ok (q', rest)) :
    FitsIn (n + 1) q'.wherePatterns := by
  induction sections generalizing first q cs with
  | nil =>
      obtain ⟨rest', -, h⟩ := bind_eq_ok_iff.mp h
      cases h
      exact hq
  | cons s sections ih =>
      obtain ⟨⟨more, cs'⟩, -, h⟩ := bind_eq_ok_iff.mp h
      cases more with
      | false =>
          cases h
          exact hq
      | true =>
          obtain ⟨⟨q₁, cs₁⟩, hread, h⟩ := bind_eq_ok_iff.mp h
          exact ih (Section.fitsIn_of_read hq hread) h

/-- **A query that is read** in limited room, be it an object or an array. -/
theorem fitsIn_of_read {q : Query} (h : read fuel (2 * n + 3) cs = .ok (q, rest)) :
    FitsIn (n + 1) q.wherePatterns := by
  have hempty : FitsIn (n + 1) empty.wherePatterns := fitsIn_nil n
  rw [read] at h
  split at h
  · exact fitsIn_of_readSections hempty h
  · obtain ⟨⟨⟨seen, q'⟩, rest'⟩, hloop, h⟩ := map_eq_ok_iff.mp h
    cases h
    refine readMembers_keeps (fun state => FitsIn (n + 1) state.2.wherePatterns) ?_ hempty hloop
    intro state name cs after rest hstate hmember
    exact fitsIn_of_readMember hstate hmember
  · obtain ⟨⟨v, rest'⟩, -, h⟩ := bind_eq_ok_iff.mp h
    exact absurd h (by simp)

theorem fitsIn_of_ofText {text : String} {q : Query} (h : ofText text = .ok q) :
    FitsIn 63 q.wherePatterns := by
  have hdocument := mapError_eq_ok_iff.mp h
  have hresult := mapError_eq_ok_iff.mp hdocument
  obtain ⟨⟨q', rest⟩, hread, h⟩ := bind_eq_ok_iff.mp hresult
  -- There is room for 127 brackets: one is that of the query, and the others make 62 pairs and two.
  have hfits : FitsIn 63 q'.wherePatterns := fitsIn_of_read (n := 62) hread
  dsimp only at h
  split at h
  · cases h
    exact hfits
  · exact absurd h (by simp)

/-- **A loaded query is nested no deeper than 63 levels**: no pattern of its WHERE clause stands deeper,
and the walk over it takes no more frames. -/
theorem nesting_of_ofText {text : String} {q : Query} (h : ofText text = .ok q) :
    (∀ a p, patternAt q.wherePatterns a = some p → level a ≤ 63) ∧
    walkWithin 63 .root 0 q.wherePatterns = some (walkWhere q.wherePatterns) := by
  have hfits : FitsIn 63 q.wherePatterns := fitsIn_of_ofText h
  refine ⟨?_, walkWithin_eq hfits .root 0⟩
  intro a p ha
  exact level_le_of_fitsIn hfits ha

end Query

/-! ### A query that is nested so deep -/

/-- A pattern inside so many groups. -/
def tower : Nat → Pattern
  | 0 => .other ""
  | n + 1 => .group [tower n]

theorem terms_tower (n : Nat) : (tower n).terms = [] := by
  induction n with
  | zero => rw [tower, Pattern.terms]
  | succ n ih => rw [tower, Pattern.terms, List.flatMap_singleton, ih]

theorem depth_toJson_tower (n : Nat) : (tower n).toJson.depth = 2 * n + 1 := by
  induction n with
  | zero =>
      rw [tower, Pattern.toJson]
      rfl
  | succ n ih =>
      rw [tower, Pattern.toJson, List.map_singleton]
      simp only [Value.depth, membersDepth, elementsDepth, ih]
      omega

theorem patternAt_tower (n : Nat) :
    patternAt [tower n] (List.replicate (2 * n + 1) 0) = some (.other "") := by
  induction n with
  | zero => rfl
  | succ n ih =>
      rw [show 2 * (n + 1) + 1 = 2 * n + 1 + 1 + 1 by omega, List.replicate_succ, List.replicate_succ,
        tower]
      rw [@patternAt_cons_cons _ [tower n] (.group [tower n]) 0 0 rfl rfl]
      exact ih

/-- A frame for each group is one frame too few. -/
theorem walkWithin_tower (n : Nat) (s : Scope) (u : Nat) : walkWithin n s u [tower n] = none := by
  induction n generalizing s u with
  | zero => rfl
  | succ n ih =>
      rw [walkWithin, walkEachWithin]
      show (walkWithin n s u [tower n]).bind _ = none
      rw [ih]
      rfl

/-- A document that uses up all brackets. -/
def towerDocument : Value := .object [("where", .array [(tower 62).toJson])]

theorem Query.nesting_of_towerDocument :
    ∃ q, ofText (String.ofList (towerDocument.write .compact)) = .ok q ∧
      (∃ a p, patternAt q.wherePatterns a = some p ∧ level a = 63) ∧
      walkWithin 62 .root 0 q.wherePatterns = none ∧
      walkWithin 63 .root 0 q.wherePatterns = some (walkWhere q.wherePatterns) := by
  have hexact : towerDocument.IsExact := by
    refine .object (by simp) ?_
    simp only [List.forall_mem_cons]
    exact ⟨.array (by simpa using (tower 62).isExact_toJson), by simp⟩
  have hdepth : towerDocument.depth ≤ depthLimit := by
    simp only [towerDocument, Value.depth, membersDepth, elementsDepth, depth_toJson_tower]
    decide
  have hload := ofText_eq_ofSections hexact hdepth (Or.inl rfl) .compact
  have hproper : AllProper (tower 62).terms := by
    rw [terms_tower]
    exact allProper_nil
  have hpatterns : (ofSections fun s => towerDocument.section? s).wherePatterns = [tower 62] := by
    show [Pattern.ofJson (tower 62).toJson] = _
    rw [Pattern.ofJson_toJson hproper]
  have hwalk := (nesting_of_ofText hload).2
  refine ⟨_, hload, ⟨List.replicate 125 0, .other "", ?_, by simp [level]⟩, ?_, hwalk⟩
  · rw [hpatterns]
    exact patternAt_tower 62
  · rw [hpatterns]
    exact walkWithin_tower 62 .root 0

end QueryGraph
