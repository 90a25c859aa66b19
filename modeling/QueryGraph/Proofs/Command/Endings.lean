import QueryGraph.Command.Run
import QueryGraph.Proofs.Command.Files

/-!
# `Proofs.Command.Endings` — the ways in which a run ends

A run goes through four things that can fail: its input is read as a query, its output is opened, its
format is found, its document is written. Which lines it reports depends on how far it gets. Each way to
end is a rule of `Ends`, with everything the run has done by then: its result, the files, and what has
been written where. Whatever a run is asked to do, and wherever, it ends by one of the rules
(`ends_execute`), so a property of runs is proved rule by rule.

## Contents
- `Session.perform` — carrying out a part of a run in a session, and one part after another.
- `Session.load`, `Directory.opened`, `Session.deliver` — the parts that can fail, as functions.
- `Delivered` — where a document can go.
- `Options.greeting`, `Options.progress`, `Options.farewell` — the lines that a run reports.
- `Ends`, `ends_execute`, `Ends.unique` — the ways to end.
-/

namespace QueryGraph.Command

/-! ## Parts of a run in a session -/

namespace Session

section Perform

variable {α β : Type}

/-- Carries out a part of a run in a session. -/
def perform (s : Session) (part : ExceptT RunError (StateM Session) α) : Except RunError α × Session :=
  part.run.run s

/-- **One part after another**: the second is carried out where the first one has left off, unless that
has failed. -/
theorem perform_bind (s : Session) (part : ExceptT RunError (StateM Session) α)
    (next : α → ExceptT RunError (StateM Session) β) :
    s.perform (part >>= next) =
      match s.perform part with
      | (.ok a, t) => t.perform (next a)
      | (.error e, t) => (.error e, t) := by
  unfold perform
  rw [ExceptT.run_bind, StateT.run_bind]
  rcases part.run.run s with ⟨a | a, t⟩ <;> rfl

/-- What cannot fail is carried out as it is. -/
theorem perform_lift (s : Session) (part : StateM Session α) :
    s.perform (liftM part) = (.ok (part.run s).1, (part.run s).2) := rfl

theorem perform_pure (s : Session) (a : α) : s.perform (pure a) = (.ok a, s) := rfl

theorem perform_ofExcept (s : Session) (x : Except RunError α) :
    s.perform (MonadExcept.ofExcept x) = (x, s) := by
  cases x <;> rfl

end Perform

/-- Writes lines to standard error. -/
def reportLines (s : Session) (lines : List String) : Session :=
  s.report (String.join (lines.map fun line => line ++ "\n"))

theorem reportLines_nil (s : Session) : s.reportLines [] = s := by
  show { s with errors := s.errors ++ "" } = s
  rw [String.append_empty]

/-- Lines may be written in one go or in two. -/
theorem reportLines_append (s : Session) (ks ls : List String) :
    s.reportLines (ks ++ ls) = (s.reportLines ks).reportLines ls := by
  simp [reportLines, report, String.append_assoc]

theorem perform_reportLines (s : Session) (lines : List String) :
    s.perform (liftM (Command.reportLines lines : StateM Session Unit)) =
      (.ok (), s.reportLines lines) := rfl

theorem perform_askedFilter (s : Session) :
    s.perform (liftM (Host.askedFilter : StateM Session (Option String))) =
      (.ok s.askedFilter, s) := rfl

/-- What is written before going on, on a condition. -/
theorem perform_reportIf {α : Type} (s : Session) (b : Bool) (lines : List String)
    (next : Unit → ExceptT RunError (StateM Session) α) :
    s.perform (if b = true then (do
        let r ← liftM (Command.reportLines lines : StateM Session Unit)
        next r) else next ()) =
      (s.reportLines (if b then lines else [])).perform (next ()) := by
  cases b with
  | true => rfl
  | false => rw [if_neg Bool.false_ne_true, if_neg Bool.false_ne_true, reportLines_nil]

/-! ## The parts that can fail -/

/-- What is read as input. -/
def inputBytes (s : Session) (path : String) : Except FileError ByteArray :=
  if path = "-" then .ok s.input else s.readFile path

/-- The query of the input. -/
def load (s : Session) (path : String) : Except RunError Query := do
  let bytes ← (s.inputBytes path).mapError .input
  (Query.ofBytes bytes).mapError .load

theorem perform_loadInput (s : Session) (path : String) :
    s.perform (loadInput path) = (s.load path, s) := by
  have hbytes : ∀ content : Except FileError ByteArray,
      s.perform (do
        let bytes ← MonadExcept.ofExcept (content.mapError RunError.input)
        MonadExcept.ofExcept ((Query.ofBytes bytes).mapError RunError.load)) =
      ((do
        let bytes ← content.mapError RunError.input
        (Query.ofBytes bytes).mapError RunError.load), s) := by
    intro content
    rw [perform_bind, perform_ofExcept]
    cases content.mapError RunError.input with
    | error e => rfl
    | ok bytes => exact perform_ofExcept s _
  unfold load inputBytes loadInput
  by_cases hpath : path = "-"
  · rw [if_pos hpath, if_pos hpath]
    exact hbytes (.ok s.input)
  · rw [if_neg hpath, if_neg hpath]
    exact hbytes (s.readFile path)

end Session

/-- The files when the output has been opened. -/
def Directory.opened (d : Directory) : Option String → Except RunError Directory
  | none => .ok d
  | some path => (d.create path).mapError .output

theorem Directory.opened_some_eq_ok {d d' : Directory} {path : String}
    (h : d.opened (some path) = .ok d') : d.create path = .ok d' :=
  mapError_eq_ok_iff.mp h

namespace Session

theorem perform_openOutput (s : Session) (output : Option String) :
    s.perform (openOutput output) =
      match s.files.opened output with
      | .ok files => (.ok (), { s with files := files })
      | .error e => (.error e, s) := by
  cases output with
  | none => rfl
  | some path =>
      have hcreate : ∀ made t, (Host.createFile path : StateM Session (Except FileError Unit)) s =
          (made, t) → s.perform (openOutput (some path)) = (made.mapError .output, t) := by
        intro made t hmade
        unfold openOutput
        dsimp only
        rw [perform_bind, perform_lift, StateT.run, hmade]
        exact perform_ofExcept t _
      unfold Directory.opened
      dsimp only
      cases hfiles : s.files.create path with
      | error e => exact hcreate (.error e) s (by simp [Host.createFile, hfiles])
      | ok files => exact hcreate (.ok ()) { s with files := files } (by simp [Host.createFile, hfiles])

/-- Writes the document to its place. -/
def deliver (s : Session) (document : String) : Option String → Except RunError Unit × Session
  | none => (.ok (), s.print document)
  | some path => ((s.appendFile path document).1.mapError .output, (s.appendFile path document).2)

theorem perform_deliver (s : Session) (document : String) (output : Option String) :
    s.perform (Command.deliver document output) = s.deliver document output := by
  cases output with
  | none => rfl
  | some path =>
      unfold Command.deliver
      dsimp only
      rw [perform_bind, perform_lift]
      exact perform_ofExcept _ _

/-- **Where a document can go**: to standard output, to standard error, or to the files. -/
inductive Delivered (s : Session) (document : String) : Option String → Session → Prop
  | printed : Delivered s document none (s.print document)
  | toOutput {path : String} (hentry : s.files.entry path = .ok (.device .standardOutput)) :
    Delivered s document (some path) (s.print document)
  | toErrors {path : String} (hentry : s.files.entry path = .ok (.device .standardError)) :
    Delivered s document (some path) (s.report document)
  | stored {path : String} (houtput : s.files.entry path ≠ .ok (.device .standardOutput))
    (herrors : s.files.entry path ≠ .ok (.device .standardError)) :
    Delivered s document (some path) { s with files := s.files.append path document }

/-- A document is written, or there is no room for it and nothing happens. -/
theorem deliver_cases (s : Session) (document : String) (output : Option String) :
    (∃ t, s.deliver document output = (.ok (), t) ∧ Delivered s document output t) ∨
    ∃ path, output = some path ∧ s.files.entry path = .ok (.device .full) ∧
      s.deliver document output = (.error (.output .noSpace), s) := by
  cases output with
  | none => exact Or.inl ⟨_, rfl, .printed⟩
  | some path =>
      unfold deliver
      dsimp only
      unfold appendFile
      split
      · rename_i hentry
        exact Or.inl ⟨_, rfl, .toOutput hentry⟩
      · rename_i hentry
        exact Or.inl ⟨_, rfl, .toErrors hentry⟩
      · rename_i hentry
        exact Or.inr ⟨path, rfl, hentry, rfl⟩
      · rename_i houtput herrors _
        exact Or.inl ⟨_, rfl, .stored houtput herrors⟩

variable {s t : Session} {document : String} {output : Option String}

theorem delivered_of_eq (h : s.deliver document output = (.ok (), t)) :
    Delivered s document output t := by
  rcases deliver_cases s document output with ⟨u, hdone, hdelivered⟩ | ⟨path, -, -, hfull⟩
  · rw [hdone] at h
    cases h
    exact hdelivered
  · rw [hfull] at h
    cases h

/-- A document that cannot be written has been sent to a device without room, and leaves everything as it
is. -/
theorem full_of_deliver_error {e : RunError} (h : s.deliver document output = (.error e, t)) :
    (∃ path, output = some path ∧ s.files.entry path = .ok (.device .full)) ∧ t = s := by
  rcases deliver_cases s document output with ⟨u, hdone, -⟩ | ⟨path, hpath, hentry, hfull⟩
  · rw [hdone] at h
    cases h
  · rw [hfull] at h
    cases h
    exact ⟨⟨path, hpath, hentry⟩, rfl⟩

end Session

/-! ## The lines that a run reports -/

/-- The line reported before the input is read, if the run is `verbose`. -/
def Options.greeting (o : Options) : List String :=
  if o.verbose then ["Loading input from: " ++ o.input] else []

/-- The lines reported between reading the input and opening the output: the number of annotation
predicates, if the run is `verbose`, and the events that the log filter shows. -/
def Options.progress (o : Options) (asked : Option String) (q : Query) : List String :=
  (if o.verbose then ["Annotation predicates: " ++ toString o.annotations.size] else []) ++
    shownLines (logFilter? o.verbose o.quiet asked) (q.buildWithEvents o.annotations).2

/-- The lines reported at the end of a run that succeeds: the legend, if `showPrefixes` is given, and the
summary; none if the run is `quiet`. -/
def Options.farewell (o : Options) (q : Query) : List String :=
  if o.quiet then []
  else (if o.showPrefixes then legendLines q.prefixes else []) ++ [summary (q.build o.annotations)]

/-- The document that is asked for. -/
def Options.document (o : Options) (q : Query) (format : Format) : String :=
  (q.build o.annotations).document format o.layout

/-- A session in which the query of the input has been read and all lines before the output have been
reported. -/
def Session.prepared (s : Session) (o : Options) (q : Query) : Session :=
  s.reportLines (o.greeting ++ o.progress s.askedFilter q)

/-! ## Endings -/

/-- **The ways in which a run ends** that is started in session `s` with options `o`: its result, and the
session afterwards. -/
inductive Ends (o : Options) (s : Session) : Except RunError Unit → Session → Prop
  /-- The input cannot be read, or is no query. -/
  | unloaded {e : RunError} (hload : s.load o.input = .error e) :
    Ends o s (.error e) (s.reportLines o.greeting)
  /-- The output cannot be opened. -/
  | unopened {e : RunError} {q : Query} (hload : s.load o.input = .ok q)
    (hopened : s.files.opened o.output = .error e) :
    Ends o s (.error e) (s.prepared o q)
  /-- The output is open, but there is no such format. -/
  | unformatted {e : RunError} {q : Query} {files : Directory} (hload : s.load o.input = .ok q)
    (hopened : s.files.opened o.output = .ok files) (hformat : formatOfName o.format = .error e) :
    Ends o s (.error e) { s.prepared o q with files := files }
  /-- The document cannot be written. -/
  | undelivered {e : RunError} {q : Query} {files : Directory} {format : Format} {t : Session}
    (hload : s.load o.input = .ok q) (hopened : s.files.opened o.output = .ok files)
    (hformat : formatOfName o.format = .ok format)
    (hdeliver : { s.prepared o q with files := files }.deliver (o.document q format) o.output =
      (.error e, t)) :
    Ends o s (.error e) t
  /-- The document has been written. -/
  | delivered {q : Query} {files : Directory} {format : Format} {t : Session}
    (hload : s.load o.input = .ok q) (hopened : s.files.opened o.output = .ok files)
    (hformat : formatOfName o.format = .ok format)
    (hdeliver : { s.prepared o q with files := files }.deliver (o.document q format) o.output =
      (.ok (), t)) :
    Ends o s (.ok ()) (t.reportLines (o.farewell q))

/-- What is left to do when the query has been loaded and drawn. -/
def complete (o : Options) (q : Query) : ExceptT RunError (StateM Session) Unit := do
  openOutput o.output
  let format ← MonadExcept.ofExcept (formatOfName o.format)
  deliver (o.document q format) o.output
  if ¬o.quiet then
    let legend := if o.showPrefixes then legendLines q.prefixes else []
    (reportLines (legend ++ [summary (q.build o.annotations)]) : StateM Session Unit)

/-- A run that cannot load its query ends there. -/
theorem perform_execute_of_error {o : Options} {s : Session} {e : RunError}
    (hload : s.load o.input = .error e) :
    s.perform (execute o) = (.error e, s.reportLines o.greeting) := by
  have hread : ∀ lines, (s.reportLines lines).load o.input = .error e := fun _ => hload
  unfold execute
  dsimp only
  rw [Session.perform_reportIf, Session.perform_bind, Session.perform_loadInput, hread]
  rfl

/-- A run that has loaded its query goes on to its output. -/
theorem perform_execute_of_ok {o : Options} {s : Session} {q : Query}
    (hload : s.load o.input = .ok q) :
    s.perform (execute o) = (s.prepared o q).perform (complete o q) := by
  have hread : ∀ lines, (s.reportLines lines).load o.input = .ok q := fun _ => hload
  have hsaid : s.prepared o q = ((s.reportLines o.greeting).reportLines
      (if o.verbose then ["Annotation predicates: " ++ toString o.annotations.size] else [])).reportLines
      (shownLines (logFilter? o.verbose o.quiet s.askedFilter)
        (q.buildWithEvents o.annotations).2) := by
    rw [← Session.reportLines_append, ← Session.reportLines_append]
    rfl
  unfold execute
  dsimp only
  rw [Session.perform_reportIf, Session.perform_bind, Session.perform_loadInput, hread]
  dsimp only
  rw [Session.perform_reportIf, Session.perform_bind, Session.perform_askedFilter]
  dsimp only
  rw [Session.perform_bind, Session.perform_reportLines, hsaid]
  rfl

theorem perform_farewell (o : Options) (q : Query) (s : Session) :
    s.perform (if ¬o.quiet then
      liftM (reportLines ((if o.showPrefixes then legendLines q.prefixes else []) ++
        [summary (q.build o.annotations)]) : StateM Session Unit) else pure ()) =
      (.ok (), s.reportLines (o.farewell q)) := by
  unfold Options.farewell
  cases o.quiet with
  | true => rw [if_neg (by simp), if_pos rfl, Session.reportLines_nil, Session.perform_pure]
  | false => rfl

/-- **Every run ends in one of the ways.** -/
theorem ends_execute (o : Options) (s : Session) :
    Ends o s (s.perform (execute o)).1 (s.perform (execute o)).2 := by
  -- One part after another: where a part fails, the run ends there.
  cases hload : s.load o.input with
  | error e =>
      rw [perform_execute_of_error hload]
      exact .unloaded hload
  | ok q =>
      have hfiles : (s.prepared o q).files = s.files := rfl
      rw [perform_execute_of_ok hload, complete, Session.perform_bind, Session.perform_openOutput, hfiles]
      cases hopened : s.files.opened o.output with
      | error e => exact .unopened hload hopened
      | ok files =>
          dsimp only
          rw [Session.perform_bind, Session.perform_ofExcept]
          cases hformat : formatOfName o.format with
          | error e => exact .unformatted hload hopened hformat
          | ok format =>
              dsimp only
              rw [Session.perform_bind, Session.perform_deliver]
              rcases hdeliver : Session.deliver { s.prepared o q with files := files }
                (o.document q format) o.output with ⟨result, t⟩
              cases result with
              | error e => exact .undelivered hload hopened hformat hdeliver
              | ok _ =>
                  dsimp only
                  rw [perform_farewell]
                  exact .delivered hload hopened hformat hdeliver

/-- **A run has one ending only.** -/
theorem Ends.unique {o : Options} {s t t' : Session} {r r' : Except RunError Unit}
    (h : Ends o s r t) (h' : Ends o s r' t') : r = r' ∧ t = t' := by
  cases h <;> cases h' <;> grind

end QueryGraph.Command
