/-!
# `Proofs.Outcome` — what a successful outcome says about its parts

A computation that may fail has succeeded only if its parts have. These laws take an outcome apart, so
that no proof has to go through the failures of the parts.

## Contents
- `bind_eq_ok_iff` — one computation after another.
- `map_eq_ok_iff`, `mapError_eq_ok_iff` — an outcome in other words.
- `foldlM_cons_eq_ok_iff` — step by step along a list.
-/

namespace QueryGraph

variable {α β ε ε' : Type}

theorem ok_bind (a : α) (next : α → Except ε β) : (Except.ok a >>= next) = next a := rfl

/-- **One computation after another succeeds** if both do. -/
theorem bind_eq_ok_iff {x : Except ε α} {next : α → Except ε β} {b : β} :
    (x >>= next) = .ok b ↔ ∃ a, x = .ok a ∧ next a = .ok b := by
  cases x with
  | error e =>
      constructor
      · rintro ⟨⟩
      · rintro ⟨a, ⟨⟩, -⟩
  | ok a =>
      constructor
      · intro h
        exact ⟨a, rfl, h⟩
      · rintro ⟨a', ha, h⟩
        cases ha
        exact h

theorem map_eq_ok_iff {x : Except ε α} {f : α → β} {b : β} :
    x.map f = .ok b ↔ ∃ a, x = .ok a ∧ f a = b := by
  cases x with
  | error e =>
      constructor
      · rintro ⟨⟩
      · rintro ⟨a, ⟨⟩, -⟩
  | ok a =>
      constructor
      · intro h
        exact ⟨a, rfl, Except.ok.inj h⟩
      · rintro ⟨a', ha, rfl⟩
        cases ha
        rfl

theorem mapError_eq_ok_iff {x : Except ε α} {f : ε → ε'} {a : α} :
    x.mapError f = .ok a ↔ x = .ok a := by
  cases x with
  | error e => constructor <;> rintro ⟨⟩
  | ok b =>
      constructor
      · intro h
        exact congrArg Except.ok (Except.ok.inj h)
      · intro h
        exact congrArg Except.ok (Except.ok.inj h)

/-- **Steps along a list can be taken** if the first one can, and from there the others. -/
theorem foldlM_cons_eq_ok_iff {step : β → α → Except ε β} {a : α} {as : List α} {b c : β} :
    (a :: as).foldlM step b = .ok c ↔ ∃ d, step b a = .ok d ∧ as.foldlM step d = .ok c := by
  rw [List.foldlM_cons]
  exact bind_eq_ok_iff

end QueryGraph
