import QueryGraph.Proofs.Command.Endings
import QueryGraph.Proofs.Command.Spelling

/-!
# `Proofs.Command.Calls` — how a call of the command ends

A call is refused, answered at once, or a run. `Exits` has a rule for each way to exit, with the exit
code and the session afterwards, and every call exits by one of them (`exits_run`). Of a call whose command
line is spelled by items, the options of its run are what the items give, so that a statement about calls
can be made about the items of their command lines.

## Contents
- `Exits`, `exits_run`, `Exits.unique` — the ways to exit.
- `answered_or_succeeded`, `failed_of_code` — calls with exit code 0, and with exit code 1.
-/

namespace QueryGraph.Command

/-! ## Exits -/

/-- **The ways in which the command exits** that is called in session `s`, by what its arguments ask for:
its exit code, and the session afterwards. -/
inductive Exits (s : Session) : Except ArgumentError Request → Nat → Session → Prop
  | refused (e : ArgumentError) : Exits s (.error e) 2 (s.reportLines ["error: " ++ e.message])
  | version : Exits s (.ok .version) 0 (s.print (versionLine ++ "\n"))
  | help : Exits s (.ok .help) 0 (s.print (usage ++ "\n"))
  | failed {o : Options} {e : RunError} {t : Session} (hends : Ends o s (.error e) t) :
    Exits s (.ok (.run o)) 1 (t.reportLines ["Error: " ++ e.message])
  | succeeded {o : Options} {t : Session} (hends : Ends o s (.ok ()) t) : Exits s (.ok (.run o)) 0 t

/-- A call by what its arguments ask for. -/
theorem Session.run_eq (s : Session) (args : List String) :
    s.run args =
      match parseArguments args with
      | .error e => (2, s.reportLines ["error: " ++ e.message])
      | .ok .version => (0, s.print (versionLine ++ "\n"))
      | .ok .help => (0, s.print (usage ++ "\n"))
      | .ok (.run o) =>
        match s.perform (execute o) with
        | (.ok (), t) => (0, t)
        | (.error e, t) => (1, t.reportLines ["Error: " ++ e.message]) := by
  unfold Session.run Command.run
  cases parseArguments args with
  | error e => rfl
  | ok request =>
      cases request with
      | version => rfl
      | help => rfl
      | run o =>
          dsimp only
          change StateT.run (_ >>= _) s = _
          rw [StateT.run_bind]
          unfold Session.perform
          rcases (execute o : ExceptT RunError (StateM Session) Unit).run.run s with ⟨_ | _, t⟩ <;> rfl

/-- **Every call exits in one of the ways.** -/
theorem exits_run (s : Session) (args : List String) :
    Exits s (parseArguments args) (s.run args).1 (s.run args).2 := by
  rw [Session.run_eq]
  cases parseArguments args with
  | error e => exact .refused e
  | ok request =>
      cases request with
      | version => exact .version
      | help => exact .help
      | run o =>
          have hends := ends_execute o s
          dsimp only
          generalize s.perform (execute o) = ended at hends ⊢
          rcases ended with ⟨e | _, t⟩
          · exact .failed hends
          · exact .succeeded hends

/-- A call has one exit only. -/
theorem Exits.unique {s t t' : Session} {asked : Except ArgumentError Request} {code code' : Nat}
    (h : Exits s asked code t) (h' : Exits s asked code' t') : code = code' ∧ t = t' := by
  cases h with
  | refused e =>
      cases h'
      exact ⟨rfl, rfl⟩
  | version =>
      cases h'
      exact ⟨rfl, rfl⟩
  | help =>
      cases h'
      exact ⟨rfl, rfl⟩
  | failed hends =>
      cases h' with
      | failed hends' =>
          obtain ⟨hresult, rfl⟩ := hends.unique hends'
          cases hresult
          exact ⟨rfl, rfl⟩
      | succeeded hends' => cases (hends.unique hends').1
  | succeeded hends =>
      cases h' with
      | failed hends' => cases (hends.unique hends').1
      | succeeded hends' => exact ⟨rfl, (hends.unique hends').2⟩

/-! ## Calls by their items -/

section

variable {items : List Item} {args : List String} {s : Session}

/-- A call that is not refused exits as its items ask. -/
theorem exits_of_spelled (h : Spelled items args) (hcode : (s.run args).1 ≠ 2) :
    ∃ asked, requestOf (items.foldlM Draft.take .empty) = .ok asked ∧
      Exits s (.ok asked) (s.run args).1 (s.run args).2 := by
  have hexits := exits_run s args
  unfold parseArguments at hexits
  rw [readArguments_of_spelled h] at hexits
  generalize s.run args = exit at hexits hcode ⊢
  rcases exit with ⟨code, t⟩
  cases hasked : requestOf (items.foldlM Draft.take .empty) with
  | error e =>
      rw [hasked] at hexits
      cases hexits
      exact absurd rfl hcode
  | ok asked =>
      rw [hasked] at hexits
      exact ⟨asked, rfl, hexits⟩

/-- The command line of a call that is not refused is spelled by some items. -/
theorem exists_spelled_of_code (hcode : (s.run args).1 ≠ 2) : ∃ items, Spelled items args := by
  have hexits := exits_run s args
  cases hargs : parseArguments args with
  | ok asked => exact exists_spelled hargs
  | error e =>
      rw [hargs] at hexits
      generalize s.run args = exit at hexits hcode
      rcases exit with ⟨code, t⟩
      cases hexits
      exact absurd rfl hcode

/-- **A call with exit code 0** is a run that succeeds with the options of its items, or is answered at
once. -/
theorem answered_or_succeeded (h : Spelled items args) (hcode : (s.run args).1 = 0) :
    ((∃ item ∈ items, item.answer?.isSome) ∧ ∃ text, (s.run args).2 = s.print text) ∨
    ∃ o : Options, o.SaidBy items ∧ Ends o s (.ok ()) (s.run args).2 := by
  obtain ⟨asked, hasked, hexits⟩ := exits_of_spelled h (by rw [hcode]; decide)
  have hanswered : ∀ r, items.findSome? Item.answer? = some r →
      ∃ item ∈ items, item.answer?.isSome := by
    intro r hr
    obtain ⟨item, hitem, hanswer⟩ := List.exists_of_findSome?_eq_some hr
    exact ⟨item, hitem, Option.isSome_iff_exists.mpr ⟨r, hanswer⟩⟩
  generalize s.run args = exit at hexits hcode ⊢
  rcases exit with ⟨code, t⟩
  rcases request_cases hasked with ⟨o, rfl, hsaid⟩ | hanswer
  · cases hexits with
    | failed hends => cases hcode
    | succeeded hends => exact Or.inr ⟨o, hsaid, hends⟩
  · cases hexits with
    | version => exact Or.inl ⟨hanswered _ hanswer, _, rfl⟩
    | help => exact Or.inl ⟨hanswered _ hanswer, _, rfl⟩
    | failed hends => cases hcode
    | @succeeded o t hends =>
        obtain ⟨item, -, hrun⟩ := List.exists_of_findSome?_eq_some hanswer
        exact absurd hrun (item.answer?_ne_run o)

/-- **A call with exit code 1** is a run that fails with the options of its items. -/
theorem failed_of_code (h : Spelled items args) (hcode : (s.run args).1 = 1) :
    ∃ o : Options, o.SaidBy items ∧ ∃ e t, Ends o s (.error e) t ∧
      (s.run args).2 = t.reportLines ["Error: " ++ e.message] := by
  obtain ⟨asked, hasked, hexits⟩ := exits_of_spelled h (by rw [hcode]; decide)
  generalize s.run args = exit at hexits hcode ⊢
  rcases exit with ⟨code, t⟩
  cases hexits with
  | version => cases hcode
  | help => cases hcode
  | succeeded hends => cases hcode
  | @failed o e t hends => exact ⟨o, saidBy_of_request hasked, e, t, hends, rfl⟩

end

end QueryGraph.Command
