/-!
# `Entries` — named entries in order

A list of names with values, each name at most once, in the order in which the names first came.
Members of JSON objects and prefix declarations are kept this way.

## Contents
- `Entries.set` — writing one entry.
- `Entries.map_fst_set`, `Entries.set_of_not_mem`, `Entries.nodup_set` — what happens to the names.
- `Entries.not_mem_of_nodup` — a name that comes once has not come before.
- `Entries.eq_or_mem_of_mem_set` — the entries after writing one.
- `Entries.lookup_eq_some_iff_mem`, `Entries.lookup_eq_of_perm` — a name that comes once is found with
  its value, in whatever order the entries stand.
- `Entries.lookup_set` — what is found afterwards.
-/

namespace QueryGraph.Entries

variable {α : Type}

/-- The entries after writing one: a name that is there keeps its place and takes the new value, a
new name goes to the end. -/
def set (name : String) (value : α) : List (String × α) → List (String × α)
  | [] => [(name, value)]
  | (other, old) :: rest =>
    if other = name then (name, value) :: rest else (other, old) :: set name value rest

/-- Writing an entry adds its name at the end if it is new, and leaves the names alone otherwise. -/
theorem map_fst_set (name : String) (value : α) (entries : List (String × α)) :
    (set name value entries).map Prod.fst =
      if name ∈ entries.map Prod.fst then entries.map Prod.fst
      else entries.map Prod.fst ++ [name] := by
  induction entries with
  | nil => simp [set]
  | cons entry rest ih =>
    obtain ⟨other, old⟩ := entry
    by_cases h : other = name
    · simp [set, h]
    · have h' : ¬ name = other := fun e => h e.symm
      simp only [set, if_neg h, List.map_cons, ih, List.mem_cons, h', false_or]
      split <;> simp

/-- An entry with a new name goes to the end. -/
theorem set_of_not_mem {name : String} {entries : List (String × α)}
    (h : name ∉ entries.map Prod.fst) (value : α) :
    set name value entries = entries ++ [(name, value)] := by
  induction entries with
  | nil => rfl
  | cons entry rest ih =>
    obtain ⟨other, old⟩ := entry
    rw [List.map_cons, List.mem_cons, not_or] at h
    rw [set, if_neg fun e => h.1 e.symm, ih h.2, List.cons_append]

/-- If no name is repeated, the name of an entry is new behind those before it. -/
theorem not_mem_of_nodup {front back : List (String × α)} {entry : String × α}
    (h : ((front ++ entry :: back).map Prod.fst).Nodup) : entry.1 ∉ front.map Prod.fst := by
  rw [List.map_append, List.map_cons, List.nodup_append] at h
  exact fun hmem => h.2.2 entry.1 hmem entry.1 List.mem_cons_self rfl

/-- If no name is repeated, every entry is found under its name. -/
theorem lookup_eq_some_iff_mem {entries : List (String × α)} (h : (entries.map Prod.fst).Nodup)
    {name : String} {value : α} : entries.lookup name = some value ↔ (name, value) ∈ entries := by
  rw [List.lookup_eq_some_iff]
  constructor
  · rintro ⟨front, back, rfl, -⟩
    simp
  · intro hmem
    obtain ⟨front, back, rfl⟩ := List.append_of_mem hmem
    refine ⟨front, back, rfl, fun entry hentry => bne_iff_ne.mpr fun heq => ?_⟩
    exact not_mem_of_nodup h (List.mem_map.mpr ⟨entry, hentry, heq.symm⟩)

/-- What is found under a name does not depend on the order. -/
theorem lookup_eq_of_perm {entries others : List (String × α)} (h : entries.Perm others)
    (hnodup : (entries.map Prod.fst).Nodup) (name : String) :
    entries.lookup name = others.lookup name := by
  have hnodup' : (others.map Prod.fst).Nodup := (h.map Prod.fst).nodup_iff.mp hnodup
  apply Option.ext
  intro value
  rw [lookup_eq_some_iff_mem hnodup, lookup_eq_some_iff_mem hnodup', h.mem_iff]

/-- An entry after writing one is this one or was there before. -/
theorem eq_or_mem_of_mem_set {name : String} {value : α} {entries : List (String × α)}
    {entry : String × α} (h : entry ∈ set name value entries) :
    entry = (name, value) ∨ entry ∈ entries := by
  induction entries with
  | nil => exact Or.inl (List.mem_singleton.mp h)
  | cons first rest ih =>
    obtain ⟨other, old⟩ := first
    rw [set] at h
    split at h
    · exact (List.mem_cons.mp h).imp id (List.mem_cons_of_mem _)
    · rcases List.mem_cons.mp h with hfirst | hrest
      · exact Or.inr (List.mem_cons.mpr (Or.inl hfirst))
      · exact (ih hrest).imp id (List.mem_cons_of_mem _)

/-- Writing an entry repeats no name. -/
theorem nodup_set {entries : List (String × α)} (h : (entries.map Prod.fst).Nodup) (name : String)
    (value : α) : ((set name value entries).map Prod.fst).Nodup := by
  rw [map_fst_set]
  split
  · exact h
  · rename_i hn
    refine List.nodup_append.2 ⟨h, by simp, fun a ha b hb => ?_⟩
    rw [List.mem_singleton] at hb
    exact fun e => hn (hb ▸ e ▸ ha)

/-- An entry has the value that was written last. -/
theorem lookup_set (name : String) (value : α) (other : String) (entries : List (String × α)) :
    (set name value entries).lookup other =
      if other = name then some value else entries.lookup other := by
  induction entries with
  | nil =>
    by_cases h : other = name
    · simp [set, h]
    · simp [set, List.lookup_cons, h, beq_eq_false_iff_ne.2 h]
  | cons entry rest ih =>
    obtain ⟨first, old⟩ := entry
    by_cases h : first = name
    · subst h
      by_cases h' : other = first
      · simp [set, h']
      · simp [set, List.lookup_cons, h', beq_eq_false_iff_ne.2 h']
    · by_cases h' : other = first
      · subst h'
        simp [set, h]
      · simp [set, List.lookup_cons, h, beq_eq_false_iff_ne.2 h', ih]

end QueryGraph.Entries
