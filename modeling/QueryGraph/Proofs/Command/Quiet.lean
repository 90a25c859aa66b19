import QueryGraph.Proofs.Command.Calls

/-!
# `Proofs.Command.Quiet` — calls that leave standard error empty

A call that succeeds is silent when it writes nothing to standard error. `quiet` keeps the events and the
closing lines away, but not the two progress lines of `verbose`, which are written whether `quiet` is set
or not. Apart from these, only a document whose output leads to standard error itself is seen there, so
silence can be read off the command line and the place of the output (`run_silent_iff`).

## Contents
- `Session.Silent` — standard error is empty; it stays so only if no lines are reported.
- `Delivered.silent_iff`, `Ends.silent_iff` — after a document, after a run that succeeds.
- `run_silent_iff` — after a call with exit code 0.
-/

namespace QueryGraph.Command

/-! ## Silent sessions -/

/-- Nothing has been written to standard error. -/
def Session.Silent (s : Session) : Prop := s.errors = ""

theorem Session.silent_start (input : ByteArray) (asked : Option String) (files : Directory) :
    (Session.start input asked files).Silent := rfl

/-- A text behind another is empty only if both are. -/
theorem append_eq_empty_iff {a b : String} : a ++ b = "" ↔ a = "" ∧ b = "" := by
  rw [← String.toList_inj, ← String.toList_inj, ← String.toList_inj, String.toList_append]
  exact List.append_eq_nil_iff

/-- Every reported line shows, if only by its line feed. -/
theorem Session.silent_reportLines_iff {s : Session} {lines : List String} :
    (s.reportLines lines).Silent ↔ s.Silent ∧ lines = [] := by
  show s.errors ++ String.join (lines.map fun line => line ++ "\n") = "" ↔ _
  rw [append_eq_empty_iff]
  refine and_congr_right fun _ => ?_
  cases lines with
  | nil => exact iff_of_true rfl rfl
  | cons line lines =>
      refine iff_of_false (fun hempty => ?_) (List.cons_ne_nil line lines)
      rw [List.map_cons, String.join_cons, append_eq_empty_iff, append_eq_empty_iff] at hempty
      exact absurd hempty.1.2 (by decide)

/-! ## Runs that succeed -/

theorem Options.farewell_eq_nil_iff {o : Options} {q : Query} : o.farewell q = [] ↔ o.quiet = true := by
  unfold farewell
  cases o.quiet <;> simp

/-- Of the lines before the output, `quiet` leaves those that `verbose` asks for. -/
theorem Options.said_eq_nil_iff {o : Options} (h : o.quiet = true) (asked : Option String) (q : Query) :
    o.greeting ++ o.progress asked q = [] ↔ o.verbose = false := by
  have hshown : shownLines (logFilter? o.verbose o.quiet asked) (q.buildWithEvents o.annotations).2 =
      [] := by
    unfold shownLines logFilter?
    rw [if_pos h]
    simp
  unfold greeting progress
  rw [hshown]
  cases o.verbose <;> simp

/-- **A document is seen on standard error** only where the output leads there. -/
theorem Session.Delivered.silent_iff {s t : Session} {document : String} {output : Option String}
    (h : Delivered s document output t) (hdocument : document ≠ "") :
    t.Silent ↔ s.Silent ∧
      ∀ path, output = some path → s.files.entry path ≠ .ok (.device .standardError) := by
  cases h with
  | printed =>
      refine (and_iff_left fun path hpath => ?_).symm
      cases hpath
  | toOutput hentry =>
      refine (and_iff_left fun path hpath => ?_).symm
      cases hpath
      rw [hentry]
      simp
  | @toErrors path hentry =>
      refine iff_of_false (fun hempty => ?_) fun h => h.2 path rfl hentry
      exact hdocument (append_eq_empty_iff.mp hempty).2
  | stored houtput herrors =>
      refine (and_iff_left fun path hpath => ?_).symm
      cases hpath
      exact herrors

theorem Options.document_ne_empty (o : Options) (q : Query) (format : Format) :
    o.document q format ≠ "" := by
  intro hempty
  have hlist := congrArg String.toList hempty
  simp [document, GraphModel.document, Json.Value.document] at hlist

/-- **A run that succeeds is silent** exactly if it is `quiet` and not `verbose`, and its output does not
lead to standard error. -/
theorem Ends.silent_iff {o : Options} {s t : Session} (h : Ends o s (.ok ()) t) (hs : s.Silent) :
    t.Silent ↔ o.quiet = true ∧ o.verbose = false ∧
      ∀ path, o.output = some path → s.files.entry path ≠ .ok (.device .standardError) := by
  cases h with
  | @delivered q files format t hload hopened hformat hdeliver =>
      have hdelivered := Session.delivered_of_eq hdeliver
      have hdevice : ∀ path, o.output = some path →
          (files.entry path ≠ .ok (.device .standardError) ↔
            s.files.entry path ≠ .ok (.device .standardError)) := by
        intro path hpath
        rw [hpath] at hopened
        have hcreate := Directory.opened_some_eq_ok hopened
        exact not_congr (Directory.entry_device_iff_of_create hcreate .standardError)
      have hprepared : Session.Silent { s.prepared o q with files := files } ↔
          o.greeting ++ o.progress s.askedFilter q = [] := by
        show (s.prepared o q).Silent ↔ _
        exact Session.silent_reportLines_iff.trans (and_iff_right hs)
      -- The closing lines alone decide about `quiet`, so it comes first.
      rw [Session.silent_reportLines_iff, Options.farewell_eq_nil_iff,
        hdelivered.silent_iff (o.document_ne_empty q format), hprepared, and_comm]
      refine and_congr_right fun hquiet => ?_
      rw [Options.said_eq_nil_iff hquiet]
      exact and_congr_right fun _ =>
        forall_congr' fun path => forall_congr' fun hpath => hdevice path hpath

/-! ## Silent calls -/

/-- **When a call that succeeds is silent**: it is answered at once, or it gives `quiet` and not `verbose`,
and its output does not lead to standard error. -/
theorem run_silent_iff (input : ByteArray) (asked : Option String) (files : Directory)
    {args : List String} (hcode : ((Session.start input asked files).run args).1 = 0) :
    (∃ items, Spelled items args) ∧ ∀ items, Spelled items args →
      (((Session.start input asked files).run args).2.errors = "" ↔
        (∃ item ∈ items, item.answer?.isSome) ∨
        (.flag .quiet ∈ items ∧ .flag .verbose ∉ items ∧
          ∀ path, .value .output path ∈ items →
            files.entry path ≠ .ok (.device .standardError))) := by
  refine ⟨exists_spelled_of_code (by rw [hcode]; decide), fun items hspelled => ?_⟩
  rcases answered_or_succeeded hspelled hcode with ⟨hanswer, text, htext⟩ | ⟨o, hsaid, hends⟩
  · rw [htext]
    exact iff_of_true rfl (Or.inl hanswer)
  · have hnone : ¬∃ item ∈ items, item.answer?.isSome := by
      rintro ⟨item, hitem, hanswer⟩
      rw [hsaid.answer? item hitem] at hanswer
      cases hanswer
    rw [or_iff_right hnone]
    refine (hends.silent_iff (Session.silent_start input asked files)).trans ?_
    rw [hsaid.quiet, hsaid.verbose, decide_eq_true_iff, decide_eq_false_iff_not]
    simp only [hsaid.output]
    rfl

/-- `quiet` works joined with other options, beside `showPrefixes`, and whatever log filter is asked for. -/
theorem run_silent_joined :
    ((Session.start "\x7b\x7d".toUTF8 (some "trace") (.ofFiles [])).run
      ["-qoout", "--show-prefixes", "-"]).1 = 0 ∧
    ((Session.start "\x7b\x7d".toUTF8 (some "trace") (.ofFiles [])).run
      ["-qoout", "--show-prefixes", "-"]).2.errors = "" := by
  have hcode : ((Session.start "\x7b\x7d".toUTF8 (some "trace") (.ofFiles [])).run
      ["-qoout", "--show-prefixes", "-"]).1 = 0 := by decide +kernel
  have hjoined : Joined [.flag .quiet, .value .output "out"] ['q', 'o', 'o', 'u', 't'] none :=
    .flag rfl (.attached rfl (by decide) (by decide))
  have hspelled : Spelled [.flag .quiet, .value .output "out", .flag .showPrefixes, .input "-"]
      ["-qoout", "--show-prefixes", "-"] :=
    .word (.joined (by decide) hjoined) (.word (.flag .showPrefixes) (.word (.input rfl) .nil))
  refine ⟨hcode, ((run_silent_iff _ _ _ hcode).2 _ hspelled).mpr (Or.inr ⟨by decide, by decide, ?_⟩)⟩
  intro path hpath
  have hout : path = "out" := by simpa using hpath
  subst hout
  rintro ⟨⟩

/-- **`quiet` does not make every call silent that succeeds**: the progress lines of `verbose` are written
all the same. -/
theorem not_silent_of_quiet :
    ¬∀ (input : ByteArray) (asked : Option String) (files : Directory) (args : List String)
      (items : List Item), Spelled items args → .flag .quiet ∈ items →
      ((Session.start input asked files).run args).1 = 0 →
      ((Session.start input asked files).run args).2.errors = "" := by
  intro hquiet
  have hspelled : Spelled [.input "-", .flag .quiet, .flag .verbose] ["-", "-q", "-v"] :=
    .word (.input rfl) (.word (.joined (by decide) (.flag (c := 'q') rfl .nil))
      (.word (.joined (by decide) (.flag (c := 'v') rfl .nil)) .nil))
  have hsilent := hquiet "\x7b\x7d".toUTF8 none (.ofFiles []) _ _ hspelled (by decide)
    (by decide +kernel)
  have hsaid : ((Session.start "\x7b\x7d".toUTF8 none (.ofFiles [])).run ["-", "-q", "-v"]).2.errors =
      "Loading input from: -\nAnnotation predicates: 7\n" := by decide +kernel
  rw [hsaid] at hsilent
  exact absurd hsilent (by decide)

end QueryGraph.Command
