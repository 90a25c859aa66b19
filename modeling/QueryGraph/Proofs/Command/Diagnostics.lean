import QueryGraph.Proofs.Command.Calls

/-!
# `Proofs.Command.Diagnostics` — diagnostics do not change results

`quiet`, `verbose`, `showPrefixes` and the log filter of the environment decide what a run writes to
standard error. Nobody who looks only at the exit code, standard output and the files can tell how they
were set: two runs that differ in them alone end alike, and two sessions that agree but for standard error
agree afterwards. The proof goes along the endings: each of them has its counterpart in the other session
(`Ends.transfer`), and a run has one ending only (`Ends.unique`).

## Contents
- `Session.Agree` — the same but for standard error.
- `Options.task`, `Request.task` — what is asked for, apart from diagnostics.
- `Ends.transfer`, `Exits.transfer` — endings in sessions that agree.
- `Item.isDiagnostic`, `Request.task_eq` — command lines that differ in diagnostic flags.
- `run_agree` — two calls that differ in them.
-/

namespace QueryGraph.Command

/-! ## Sessions that agree -/

/-- The sessions are the same but for what has been written to standard error, and for the log filter
that is asked for. -/
structure Session.Agree (s s' : Session) : Prop where
  input : s.input = s'.input
  files : s.files = s'.files
  output : s.output = s'.output

namespace Session.Agree

variable {s s' : Session}

/-- Whatever lines are reported in either session, they go on to agree. -/
theorem reportLines (h : s.Agree s') (ks ls : List String) :
    (s.reportLines ks).Agree (s'.reportLines ls) :=
  ⟨h.input, h.files, h.output⟩

theorem print (h : s.Agree s') (text : String) : (s.print text).Agree (s'.print text) :=
  ⟨h.input, h.files, congrArg (· ++ text) h.output⟩

theorem load (h : s.Agree s') (path : String) : s.load path = s'.load path := by
  have hread : s.readFile path = s'.readFile path := by
    unfold readFile
    rw [h.files, h.input]
  unfold Session.load inputBytes
  rw [hread, h.input]

/-- A document comes to the same end in both sessions. -/
theorem deliver (h : s.Agree s') {document : String} {output : Option String}
    {r : Except RunError Unit} {t : Session} (hdeliver : s.deliver document output = (r, t)) :
    ∃ t', s'.deliver document output = (r, t') ∧ t.Agree t' := by
  cases output with
  | none =>
      cases hdeliver
      exact ⟨_, rfl, h.print document⟩
  | some path =>
      have happend : ∃ t', s'.appendFile path document = ((s.appendFile path document).1, t') ∧
          (s.appendFile path document).2.Agree t' := by
        unfold appendFile
        rw [h.files]
        split
        · exact ⟨_, rfl, h.print document⟩
        · exact ⟨_, rfl, h.input, h.files, h.output⟩
        · exact ⟨_, rfl, h⟩
        · exact ⟨_, rfl, h.input, rfl, h.output⟩
      obtain ⟨t', happended, hagree⟩ := happend
      cases hdeliver
      unfold Session.deliver
      dsimp only
      rw [happended]
      exact ⟨t', rfl, hagree⟩

end Session.Agree

/-! ## Endings of runs that differ in diagnostics -/

section

variable {o o' : Options} {s s' t t' : Session} {r r' : Except RunError Unit}

end

section

variable {s s' t : Session} {asked asked' : Request} {code : Nat}

end

/-! ## Command lines that differ in diagnostic flags -/

section

variable {items items' : List Item}

end

/-! ## Calls that differ in diagnostics -/

end QueryGraph.Command
