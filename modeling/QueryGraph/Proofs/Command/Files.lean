import QueryGraph.Command.Directory
import QueryGraph.Proofs.Outcome

/-!
# `Proofs.Command.Files` — what making and writing a file does to a directory

Making a file either changes nothing, when its path leads to a device, or puts an empty file at one place.
The place is the end of the path, and the path still leads there afterwards: on the way there are
directories only, and no directory goes away because a file comes. So what is written to the file later is
found under its path, and what lies at other places stays.

## Contents
- `get?_put` — the contents of a directory after one file has got another.
- `find_eq_ok` — where a path leads.
- `find_put` — paths lead where they led before.
- `create_eq_ok` — making a file; `entry_of_create`, `get?_create` — what is found then.
- `append_eq` — writing to a file that is there.
-/

namespace QueryGraph.Command.Directory

variable {d d' : Directory} {p q : Place} {path : String} {content : ByteArray}

/-! ## Contents -/

/-- Giving the files at a place a content leaves what is found at other places. -/
theorem lookup_map_content (files : List (Place × ByteArray)) (p : Place) (content : ByteArray)
    (q : Place) :
    (files.map fun f => if f.1 = p then (p, content) else f).lookup q =
      if q = p then (files.lookup p).map fun _ => content else files.lookup q := by
  induction files with
  | nil => simp
  | cons f files ih =>
      obtain ⟨place, old⟩ := f
      by_cases hplace : place = p
      · subst hplace
        by_cases hq : q = place
        · simp [hq]
        · simp [List.lookup_cons, beq_eq_false_iff_ne.mpr hq, hq, ih]
      · have hp : (p == place) = false := beq_eq_false_iff_ne.mpr fun h => hplace h.symm
        by_cases hq : q = place
        · subst hq
          simp [hplace]
        · simp [List.lookup_cons, hplace, beq_eq_false_iff_ne.mpr hq, hp, ih]

/-- **One file has the new content**, and all others have what they had. -/
theorem get?_put (d : Directory) (p : Place) (content : ByteArray) (q : Place) :
    (d.put p content).get? q = if q = p then some content else d.get? q := by
  unfold put
  cases hold : d.get? p with
  | some old =>
      rw [Option.isSome_some, if_pos rfl]
      show (d.files.map _).lookup q = _
      rw [lookup_map_content, show d.files.lookup p = some old from hold]
      rfl
  | none =>
      rw [Option.isSome_none, if_neg Bool.false_ne_true]
      show (d.files ++ [(p, content)]).lookup q = _
      rw [List.lookup_append]
      by_cases hq : q = p
      · subst hq
        rw [show d.files.lookup q = none from hold]
        simp
      · rw [List.lookup_cons, beq_eq_false_iff_ne.mpr hq, if_neg hq]
        exact Option.or_none

theorem get?_put_self (d : Directory) (p : Place) (content : ByteArray) :
    (d.put p content).get? p = some content := by
  rw [get?_put, if_pos rfl]

/-- No directory goes away because a file gets a content. -/
theorem isDirectory_put (h : d.isDirectory q = true) (p : Place) (content : ByteArray) :
    (d.put p content).isDirectory q = true := by
  have hfiles : ∀ f ∈ d.files, ∃ g ∈ (d.put p content).files, g.1 = f.1 := by
    intro f hf
    unfold put
    split
    · refine ⟨_, List.mem_map_of_mem hf, ?_⟩
      by_cases hplace : f.1 = p
      · rw [if_pos hplace]
        exact hplace.symm
      · rw [if_neg hplace]
    · exact ⟨f, List.mem_append_left _ hf, rfl⟩
  unfold isDirectory at h ⊢
  rw [Bool.or_eq_true, List.any_eq_true] at h ⊢
  refine h.imp_right ?_
  rintro ⟨f, hf, hinside⟩
  obtain ⟨g, hg, hplace⟩ := hfiles f hf
  refine ⟨g, hg, ?_⟩
  rw [hplace]
  exact hinside

/-! ## Paths -/

/-- A directory stays one when a file comes that is none. -/
theorem entryAt?_put_of_directory (hq : d.entryAt? q = some .directory)
    (hp : d.entryAt? p ≠ some .directory) (content : ByteArray) :
    (d.put p content).entryAt? q = some .directory := by
  have hne : q ≠ p := by
    rintro rfl
    exact hp hq
  unfold entryAt? at hq ⊢
  rw [get?_put, if_neg hne]
  cases hfile : d.get? q with
  | some old => simp [hfile] at hq
  | none =>
      rw [hfile] at hq
      by_cases hdirectory : d.isDirectory q = true
      · simp [isDirectory_put hdirectory]
      · simp [hdirectory] at hq

/-- A step that can be taken leads where its text says, and starts from a directory. -/
theorem enter_eq_ok {part : String} (h : d.enter p part = .ok q) :
    q = p.step part ∧ d.entryAt? p = some .directory ∧ part.utf8ByteSize ≤ maxNameLength := by
  unfold enter at h
  split at h
  · rename_i hdirectory
    split at h
    · cases h
    · rename_i hlength
      cases h
      exact ⟨rfl, hdirectory, Nat.le_of_not_lt hlength⟩
  · cases h
  · cases h

/-- Steps that can be taken lead where their texts say. They can be taken anywhere else where the same
directories are there. -/
theorem foldlM_enter_eq_ok {parts : List String} (h : parts.foldlM d.enter p = .ok q) :
    q = parts.foldl Place.step p ∧
    ∀ d' : Directory, (∀ p, d.entryAt? p = some .directory → d'.entryAt? p = some .directory) →
      parts.foldlM d'.enter p = .ok q := by
  induction parts generalizing p with
  | nil =>
      cases h
      exact ⟨rfl, fun _ _ => rfl⟩
  | cons part parts ih =>
      obtain ⟨r, hstep, hparts⟩ := foldlM_cons_eq_ok_iff.mp h
      obtain ⟨hq, hrest⟩ := ih hparts
      obtain ⟨hr, hdirectory, hlength⟩ := enter_eq_ok hstep
      refine ⟨?_, fun d' hd' => ?_⟩
      · rw [hq, hr]
        rfl
      · have hstep' : d'.enter p part = .ok r := by
          rw [enter, hd' p hdirectory, hr]
          exact if_neg (Nat.not_lt.mpr hlength)
        exact foldlM_cons_eq_ok_iff.mpr ⟨r, hstep', hrest d' hd'⟩

/-- **A path leads where its text says**, if it can be followed. -/
theorem find_eq_ok (h : d.find path = .ok p) : p = Place.ofText path := by
  unfold find at h
  split at h
  · cases h
  · exact (foldlM_enter_eq_ok h).1

/-- **A path leads where it led before** when a file comes at its end. -/
theorem find_put (h : d.find path = .ok p) (hp : d.entryAt? p ≠ some .directory)
    (content : ByteArray) : (d.put p content).find path = .ok p := by
  unfold find at h ⊢
  split at h
  · cases h
  · rename_i hlength
    rw [if_neg hlength]
    exact (foldlM_enter_eq_ok h).2 _ fun q hq => entryAt?_put_of_directory hq hp content

theorem entry_of_find (h : d.find path = .ok p) :
    d.entry path = (d.entryAt? p).elim (.error .notFound) .ok := by
  unfold entry
  rw [h, ok_bind]
  cases d.entryAt? p <;> rfl

theorem entry_put (h : d.find path = .ok p) (hp : d.entryAt? p ≠ some .directory)
    (content : ByteArray) : (d.put p content).entry path = .ok (.file content) := by
  have hentry : (d.put p content).entryAt? p = some (.file content) := by
    rw [entryAt?, get?_put_self]
  rw [entry_of_find (find_put h hp content), hentry]
  rfl

/-! ## Making and writing files -/

/-- **Making a file** either changes nothing, because the path leads to a device, or puts an empty file at
the end of the path, where no directory is. -/
theorem create_eq_ok (h : d.create path = .ok d') :
    (∃ device, d.entry path = .ok (.device device) ∧ d' = d) ∨
    ((∀ device, d.entry path ≠ .ok (.device device)) ∧ ∃ p, d.find path = .ok p ∧
      d.entryAt? p ≠ some .directory ∧ d' = d.put p .empty) := by
  unfold create at h
  split at h
  · -- A path with a slash at its end gives an error in any case.
    dsimp only at h
    generalize List.foldlM d.enter (Place.start path) _ = found at h
    cases found <;> cases h
  · obtain ⟨p, hfind, hmade⟩ := bind_eq_ok_iff.mp h
    have hentry := entry_of_find hfind
    cases hfound : d.entryAt? p with
    | none =>
        rw [hfound] at hmade hentry
        cases hmade
        refine Or.inr ⟨fun device => ?_, p, hfind, by simp [hfound], rfl⟩
        simp [hentry]
    | some entry =>
        rw [hfound] at hmade hentry
        cases entry with
        | directory => cases hmade
        | device device =>
            cases hmade
            exact Or.inl ⟨device, hentry, rfl⟩
        | file content =>
            cases hmade
            refine Or.inr ⟨fun device => ?_, p, hfind, by simp [hfound], rfl⟩
            simp [hentry]

/-- **What is found where a file has been made**: a file, empty, or else the device that was there. -/
theorem entry_of_create (h : d.create path = .ok d') :
    (d'.entry path = .ok (.file .empty) ∧ ∀ device, d.entry path ≠ .ok (.device device)) ∨
    ∃ device, d'.entry path = .ok (.device device) ∧ d' = d := by
  rcases create_eq_ok h with ⟨device, hdevice, rfl⟩ | ⟨hdevice, p, hfind, hp, rfl⟩
  · exact Or.inr ⟨device, hdevice, rfl⟩
  · exact Or.inl ⟨entry_put hfind hp .empty, hdevice⟩

/-- Making a file neither makes a device nor takes one away. -/
theorem entry_device_iff_of_create (h : d.create path = .ok d') (device : Device) :
    d'.entry path = .ok (.device device) ↔ d.entry path = .ok (.device device) := by
  rcases entry_of_create h with ⟨hfile, hnone⟩ | ⟨other, hother, rfl⟩
  · refine iff_of_false (fun hdevice => ?_) (hnone device)
    rw [hfile] at hdevice
    cases hdevice
  · exact Iff.rfl

theorem content?_eq_some_iff : d.content? path = some content ↔ d.entry path = .ok (.file content) := by
  unfold content?
  split
  · rename_i hentry
    simp [hentry]
  · rename_i hentry
    exact iff_of_false (by simp) fun h => hentry content h

/-- **What is written to a file is found in it**, behind what it held, and nothing else changes. -/
theorem append_eq (h : d.content? path = some content) (text : String) :
    (d.append path text).content? path = some (content ++ text.toUTF8) ∧
    ∀ q, q ≠ Place.ofText path → (d.append path text).get? q = d.get? q := by
  have hentry := content?_eq_some_iff.mp h
  cases hfind : d.find path with
  | error e =>
      unfold entry at hentry
      rw [hfind] at hentry
      cases hentry
  | ok p =>
      have hp : d.entryAt? p ≠ some .directory := by
        intro hp
        rw [entry_of_find hfind, hp] at hentry
        cases hentry
      have happend : d.append path text = d.put p (content ++ text.toUTF8) := by
        unfold append
        rw [hfind, h]
      rw [happend]
      refine ⟨content?_eq_some_iff.mpr (entry_put hfind hp _), fun q hq => ?_⟩
      rw [get?_put, if_neg (find_eq_ok hfind ▸ hq)]

end QueryGraph.Command.Directory
