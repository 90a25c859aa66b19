import QueryGraph.Proofs.Command.Calls

/-!
# `Proofs.Command.Failure` — what a run that fails leaves behind

Most failures come before a file is touched, and a document that cannot be written was meant for a device
without room. There is one exception: the output is opened before the format is looked at, so a format
that does not exist leaves the output empty, new or not. `Spoils` says when this is so, and a call with
exit code 1 leaves the files as they were unless it is (`run_files_unchanged_iff`); even then nothing else
changes than the output.

## Contents
- `Directory.get?_create_of_no_device` — the files when the output has been opened.
- `Ends.files_or_created` — the files after a run that fails.
- `Session.Spoils` — when a call loses its output.
- `run_files_unchanged_iff` — the files after a call with exit code 1.
-/

namespace QueryGraph.Command

/-! ## The files when the output is open -/

namespace Directory

variable {d d' : Directory} {path : String}

/-- A device is opened without changing anything. -/
theorem eq_of_create_device {device : Device} (h : d.create path = .ok d')
    (hdevice : d.entry path = .ok (.device device)) : d' = d := by
  rcases create_eq_ok h with ⟨-, -, hd⟩ | ⟨hnone, -⟩
  · exact hd
  · exact absurd hdevice (hnone device)

/-- **What lies anywhere when a file has been made**: at its place an empty file, everywhere else what was
there before. -/
theorem get?_create_of_no_device (h : d.create path = .ok d')
    (hnone : ∀ device, d.entry path ≠ .ok (.device device)) (p : Place) :
    d'.get? p = if p = Place.ofText path then some .empty else d.get? p := by
  rcases create_eq_ok h with ⟨device, hdevice, -⟩ | ⟨-, q, hfind, -, rfl⟩
  · exact absurd hdevice (hnone device)
  · rw [get?_put, find_eq_ok hfind]

/-- Making a file changes nothing only if there is nothing to change. -/
theorem get?_create_eq_iff (h : d.create path = .ok d')
    (hnone : ∀ device, d.entry path ≠ .ok (.device device)) :
    (∀ p, d'.get? p = d.get? p) ↔ d.get? (Place.ofText path) = some .empty := by
  have hget := get?_create_of_no_device h hnone
  constructor
  · intro hsame
    rw [← hsame, hget, if_pos rfl]
  · intro hempty p
    rw [hget]
    by_cases hp : p = Place.ofText path
    · rw [if_pos hp, hp, hempty]
    · rw [if_neg hp]

end Directory

/-! ## Runs that fail -/

/-- **The files after a run that fails** are those before it, unless the format is what it fails for: then
the output has been opened. -/
theorem Ends.files_of_error {o : Options} {s t : Session} {e : RunError} (h : Ends o s (.error e) t) :
    t.files = s.files ∨
    (∃ q, s.load o.input = .ok q) ∧ formatOfName o.format = .error e ∧
      s.files.opened o.output = .ok t.files := by
  cases h with
  | unloaded hload => exact Or.inl rfl
  | unopened hload hopened => exact Or.inl rfl
  | @unformatted e q files hload hopened hformat => exact Or.inr ⟨⟨q, hload⟩, hformat, hopened⟩
  | undelivered hload hopened hformat hdeliver =>
      obtain ⟨⟨path, hpath, hentry⟩, rfl⟩ := Session.full_of_deliver_error hdeliver
      rw [hpath] at hopened
      have hcreate := Directory.opened_some_eq_ok hopened
      have hdevice := (Directory.entry_device_iff_of_create hcreate .full).mp hentry
      exact Or.inl (Directory.eq_of_create_device hcreate hdevice)

/-- Of a run that fails, the files are those before it, or those with an empty file for the output. -/
theorem Ends.files_or_created {o : Options} {s t : Session} {e : RunError} (h : Ends o s (.error e) t) :
    t.files = s.files ∨
    ∃ path, o.output = some path ∧ (∃ q, s.load o.input = .ok q) ∧ formatOfName o.format = .error e ∧
      s.files.create path = .ok t.files ∧ ∀ device, s.files.entry path ≠ .ok (.device device) := by
  rcases h.files_of_error with hsame | ⟨hload, hformat, hopened⟩
  · exact Or.inl hsame
  · cases houtput : o.output with
    | none =>
        rw [houtput] at hopened
        exact Or.inl (Except.ok.inj hopened).symm
    | some path =>
        rw [houtput] at hopened
        have hcreate := Directory.opened_some_eq_ok hopened
        by_cases hdevice : ∃ device, s.files.entry path = .ok (.device device)
        · obtain ⟨device, hentry⟩ := hdevice
          exact Or.inl (Directory.eq_of_create_device hcreate hentry)
        · exact Or.inr ⟨path, rfl, hload, hformat, hcreate, not_exists.mp hdevice⟩

/-! ## Calls that fail -/

/-- **The output at a path is lost** to a call with these items in this session: the input can be
loaded and the output opened, but there is no such format. -/
structure Session.Spoils (s : Session) (items : List Item) (path : String) : Prop where
  output : .value .output path ∈ items
  loads : ∃ input q, .input input ∈ items ∧ s.load input = .ok q
  unknown : ∃ name, .value .format name ∈ items ∧ ∀ format, formatOfName name ≠ .ok format
  opens : ∃ files, s.files.create path = .ok files
  /-- The path leads to no device. -/
  noDevice : ∀ device, s.files.entry path ≠ .ok (.device device)
  /-- There is something to lose, or no file at all. -/
  held : s.files.get? (Place.ofText path) ≠ some .empty

section

variable {o : Options} {items : List Item} {s t : Session} {e : RunError}

/-- A format that does not exist has been asked for: the usual one exists. -/
theorem Options.SaidBy.exists_format (hsaid : o.SaidBy items) (h : formatOfName o.format = .error e) :
    ∃ name, .value .format name ∈ items ∧ ∀ format, formatOfName name ≠ .ok format := by
  by_cases hgiven : ∃ name, .value .format name ∈ items
  · obtain ⟨name, hname⟩ := hgiven
    refine ⟨name, hname, fun format hformat => ?_⟩
    rw [hsaid.format name hname, hformat] at h
    cases h
  · have hjson : o.format = "json" := hsaid.defaultFormat fun name hname => hgiven ⟨name, hname⟩
    have hformat : formatOfName o.format = .ok .json := by
      rw [hjson]
      rfl
    rw [hformat] at h
    cases h

/-- A run that spoils its output fails for its format, with the output open. -/
theorem Session.Spoils.ends {path : String} (h : s.Spoils items path) (hsaid : o.SaidBy items) :
    ∃ e q files, s.files.create path = .ok files ∧
      Ends o s (.error e) { s.prepared o q with files := files } := by
  obtain ⟨input, q, hinput, hload⟩ := h.loads
  obtain ⟨name, hname, hunknown⟩ := h.unknown
  obtain ⟨files, hcreate⟩ := h.opens
  have houtput : o.output = some path := (hsaid.output path).mp h.output
  have hopened : s.files.opened o.output = .ok files := by
    rw [houtput]
    show (s.files.create path).mapError RunError.output = _
    rw [hcreate]
    rfl
  cases hformat : formatOfName o.format with
  | ok format =>
      rw [hsaid.format name hname] at hformat
      exact absurd hformat (hunknown format)
  | error e =>
      rw [← (hsaid.input input).mp hinput] at hload
      exact ⟨e, q, files, hcreate, .unformatted hload hopened hformat⟩

/-- **The files are lost only where the output is spoilt.** -/
theorem Ends.files_unchanged_iff (h : Ends o s (.error e) t) (hsaid : o.SaidBy items) :
    (∀ place, t.files.get? place = s.files.get? place) ↔ ¬∃ path, s.Spoils items path := by
  constructor
  · rintro hsame ⟨path, hspoils⟩
    -- A run that spoils its output ends with the output open, and it has no other ending.
    obtain ⟨e', q, files, hcreate, hends⟩ := hspoils.ends hsaid
    obtain ⟨-, rfl⟩ := h.unique hends
    exact hspoils.held ((Directory.get?_create_eq_iff hcreate hspoils.noDevice).mp hsame)
  · intro hspoils
    rcases h.files_or_created with hsame | ⟨path, houtput, ⟨q, hload⟩, hformat, hcreate, hdevice⟩
    · rw [hsame]
      exact fun _ => rfl
    · rw [Directory.get?_create_eq_iff hcreate hdevice]
      by_contra hheld
      exact hspoils ⟨path, (hsaid.output path).mpr houtput,
        ⟨o.input, q, (hsaid.input o.input).mpr rfl, hload⟩, hsaid.exists_format hformat,
        ⟨_, hcreate⟩, hdevice, hheld⟩

/-- Nothing but the output changes, and the output becomes empty. -/
theorem Ends.get?_of_error (h : Ends o s (.error e) t) (place : Place) :
    t.files.get? place = s.files.get? place ∨
    t.files.get? place = some .empty ∧ ∃ path, o.output = some path ∧ place = Place.ofText path := by
  rcases h.files_or_created with hsame | ⟨path, houtput, -, -, hcreate, hdevice⟩
  · rw [hsame]
    exact Or.inl rfl
  · rw [Directory.get?_create_of_no_device hcreate hdevice]
    by_cases hplace : place = Place.ofText path
    · rw [if_pos hplace]
      exact Or.inr ⟨rfl, path, houtput, hplace⟩
    · rw [if_neg hplace]
      exact Or.inl rfl

end

/-- **When a call that fails leaves the files as they were**: always, but when it spoils its output. In
any case nothing changes but the output, which is empty then. -/
theorem run_files_unchanged_iff (s : Session) {args : List String} (hcode : (s.run args).1 = 1) :
    (∃ items, Spelled items args) ∧ ∀ items, Spelled items args →
      ((∀ place, (s.run args).2.files.get? place = s.files.get? place) ↔
        ¬∃ path, s.Spoils items path) ∧
      ∀ place, (s.run args).2.files.get? place = s.files.get? place ∨
        (s.run args).2.files.get? place = some .empty ∧
          ∃ path, .value .output path ∈ items ∧ place = Place.ofText path := by
  refine ⟨exists_spelled_of_code (by rw [hcode]; decide), fun items hspelled => ?_⟩
  obtain ⟨o, hsaid, e, t, hends, ht⟩ := failed_of_code hspelled hcode
  have hfiles : (s.run args).2.files = t.files := by
    rw [ht]
    rfl
  rw [hfiles]
  refine ⟨hends.files_unchanged_iff hsaid, fun place => ?_⟩
  refine (hends.get?_of_error place).imp_right fun hchanged => ?_
  obtain ⟨hempty, path, houtput, hplace⟩ := hchanged
  exact ⟨hempty, path, (hsaid.output path).mpr houtput, hplace⟩

/-- A run that cannot load its input leaves its output as it was. -/
theorem run_files_unchanged_missing :
    ((Session.start .empty none (.ofFiles [("out", "old".toUTF8)])).run ["in", "-oout", "-fdot"]).1 = 1 ∧
    ∀ place, ((Session.start .empty none (.ofFiles [("out", "old".toUTF8)])).run
      ["in", "-oout", "-fdot"]).2.files.get? place =
        (Directory.ofFiles [("out", "old".toUTF8)]).get? place := by
  have hcode : ((Session.start .empty none (.ofFiles [("out", "old".toUTF8)])).run
      ["in", "-oout", "-fdot"]).1 = 1 := by rfl
  have houtput : Joined [.value .output "out"] ['o', 'o', 'u', 't'] none :=
    .attached rfl (by decide) (by decide)
  have hformat : Joined [.value .format "dot"] ['f', 'd', 'o', 't'] none :=
    .attached rfl (by decide) (by decide)
  have hspelled : Spelled [.input "in", .value .output "out", .value .format "dot"]
      ["in", "-oout", "-fdot"] :=
    .word (.input rfl) (.word (.joined (by decide) houtput) (.word (.joined (by decide) hformat) .nil))
  refine ⟨hcode, (((run_files_unchanged_iff _ hcode).2 _ hspelled).1).mpr ?_⟩
  rintro ⟨path, hspoils⟩
  obtain ⟨input, q, hinput, hload⟩ := hspoils.loads
  have hmissing : (Session.start .empty none (.ofFiles [("out", "old".toUTF8)])).load "in" =
      .error (.input .notFound) := by rfl
  have hin : input = "in" := by simpa using hinput
  rw [hin, hmissing] at hload
  cases hload

/-- **A call that fails does not always leave the files as they were**: it opens its output before it
looks at the format. -/
theorem not_files_unchanged_of_failure :
    ¬∀ (s : Session) (args : List String), (s.run args).1 = 1 →
      ∀ place, (s.run args).2.files.get? place = s.files.get? place := by
  intro hunchanged
  have hsame := hunchanged (Session.start "\x7b\x7d".toUTF8 none (.ofFiles [("out", "old".toUTF8)]))
    ["-", "-o", "out", "-f", "dot"] (by rfl) (Place.ofText "out")
  have hempty : ((Session.start "\x7b\x7d".toUTF8 none (.ofFiles [("out", "old".toUTF8)])).run
      ["-", "-o", "out", "-f", "dot"]).2.files.get? (Place.ofText "out") = some .empty := by rfl
  have hheld : (Session.start "\x7b\x7d".toUTF8 none (.ofFiles [("out", "old".toUTF8)])).files.get?
      (Place.ofText "out") = some "old".toUTF8 := by rfl
  rw [hempty, hheld] at hsame
  exact absurd (Option.some.inj hsame) (by decide)

end QueryGraph.Command
