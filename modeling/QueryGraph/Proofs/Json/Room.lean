import QueryGraph.Json.Reader
import QueryGraph.Proofs.Outcome
import QueryGraph.Proofs.Json.Lines

/-!
# `Proofs.Json.Room` — no value is deeper than the room to read it in

A reader is told how many brackets it may open inside one another. This bounds the depth of the value
that it reads, whatever the text is: inside a bracket there is less room by one, and the loops over
elements and members keep what holds of the values so far.

## Contents
- `readElements_keeps`, `readMembers_keeps` — what every step of a loop keeps, the loop keeps.
- `readValue_cases` — what is read, and in how much room.
- `exists_elements_of_readValue`, `exists_members_of_readValue`, `bracket_or_scalar` — what is read from an
  opening bracket on, and what is read without one.
- `depth_le_of_readValue` — the main statement.
-/

namespace QueryGraph.Json

/-! ## Loops -/

section Loop

variable {σ : Type} (Good : σ → Prop) {fuel : Nat} {first : Bool} {state after : σ}
  {cs rest : List Char}

/-- **A loop over elements keeps** what every step keeps. -/
theorem readElements_keeps {step : σ → Reader σ}
    (hstep : ∀ state cs after rest, Good state → step state cs = .ok (after, rest) → Good after)
    (hstate : Good state) (h : readElements step fuel first state cs = .ok (after, rest)) :
    Good after := by
  induction fuel generalizing first state cs with
  | zero => exact absurd h (by simp [readElements])
  | succ fuel ih =>
      rw [readElements] at h
      obtain ⟨⟨more, cs'⟩, -, h⟩ := bind_eq_ok_iff.mp h
      cases more with
      | false =>
          cases h
          exact hstate
      | true =>
          obtain ⟨⟨state', cs''⟩, hread, h⟩ := bind_eq_ok_iff.mp h
          apply ih ?_ h
          exact hstep state cs' state' cs'' hstate hread

/-- **A loop over members keeps** what every step keeps. -/
theorem readMembers_keeps {step : σ → String → Reader σ}
    (hstep : ∀ state name cs after rest, Good state → step state name cs = .ok (after, rest) →
      Good after)
    (hstate : Good state) (h : readMembers step fuel first state cs = .ok (after, rest)) :
    Good after := by
  induction fuel generalizing first state cs with
  | zero => exact absurd h (by simp [readMembers])
  | succ fuel ih =>
      rw [readMembers] at h
      obtain ⟨⟨name, cs'⟩, -, h⟩ := bind_eq_ok_iff.mp h
      cases name with
      | none =>
          cases h
          exact hstate
      | some name =>
          obtain ⟨⟨state', cs''⟩, hread, h⟩ := bind_eq_ok_iff.mp h
          apply ih ?_ h
          exact hstep state name cs' state' cs'' hstate hread

end Loop

/-! ## Values -/

theorem eq_of_word {α : Type} {value v : α} {letters cs rest : List Char}
    (h : word value letters cs = .ok (v, rest)) : v = value := by
  induction letters generalizing cs with
  | nil =>
      cases h
      rfl
  | cons letter letters ih =>
      cases cs with
      | nil => exact absurd h (by simp [word])
      | cons c cs =>
          rw [word] at h
          split at h
          · exact ih h
          · exact absurd h (by simp)

/-- What is read is no bracket at all, or it is a bracket around what a loop reads in less room. -/
theorem readValue_cases {fuel room : Nat} {cs rest : List Char} {v : Value}
    (h : readValue fuel room cs = .ok (v, rest)) :
    v.depth = 0 ∨
    (∃ r vs inner, room = r + 1 ∧ v = .array vs.reverse ∧
      readElements (addElement (readValue fuel r)) fuel true [] inner = .ok (vs, rest)) ∨
    (∃ r ms inner, room = r + 1 ∧ v = .object ms ∧
      readMembers (addMember (readValue fuel r)) fuel true [] inner = .ok (ms, rest)) := by
  unfold readValue at h
  split at h
  · exact absurd h (by simp)
  · exact Or.inl (by rw [eq_of_word h, Value.depth])
  · exact Or.inl (by rw [eq_of_word h, Value.depth])
  · exact Or.inl (by rw [eq_of_word h, Value.depth])
  · obtain ⟨⟨text, rest'⟩, -, hread⟩ := map_eq_ok_iff.mp h
    cases hread
    exact Or.inl rfl
  · cases room with
    | zero => exact absurd h (by simp)
    | succ r =>
        obtain ⟨⟨vs, rest'⟩, hloop, hread⟩ := map_eq_ok_iff.mp h
        cases hread
        exact Or.inr (Or.inl ⟨r, vs, _, rfl, rfl, hloop⟩)
  · cases room with
    | zero => exact absurd h (by simp)
    | succ r =>
        obtain ⟨⟨ms, rest'⟩, hloop, hread⟩ := map_eq_ok_iff.mp h
        cases hread
        exact Or.inr (Or.inr ⟨r, ms, _, rfl, rfl, hloop⟩)
  · split at h
    · obtain ⟨⟨n, rest'⟩, -, hread⟩ := map_eq_ok_iff.mp h
      cases hread
      exact Or.inl rfl
    · exact absurd h (by simp)

/-- What is read from a bracket on is an array. -/
theorem exists_elements_of_readValue {fuel room : Nat} {cs inner rest : List Char} {v : Value}
    (hcs : skipBlanks cs = '[' :: inner) (h : readValue fuel room cs = .ok (v, rest)) :
    ∃ r vs, room = r + 1 ∧ v = .array vs.reverse ∧
      readElements (addElement (readValue fuel r)) fuel true [] inner = .ok (vs, rest) := by
  rw [readValue, hcs] at h
  cases room with
  | zero => exact absurd h (by simp)
  | succ r =>
      obtain ⟨⟨vs, rest'⟩, hloop, h⟩ := map_eq_ok_iff.mp h
      cases h
      exact ⟨r, vs, rfl, rfl, hloop⟩

/-- What is read from a brace on is an object. -/
theorem exists_members_of_readValue {fuel room : Nat} {cs inner rest : List Char} {v : Value}
    (hcs : skipBlanks cs = '\x7b' :: inner) (h : readValue fuel room cs = .ok (v, rest)) :
    ∃ r ms, room = r + 1 ∧ v = .object ms ∧
      readMembers (addMember (readValue fuel r)) fuel true [] inner = .ok (ms, rest) := by
  rw [readValue, hcs] at h
  cases room with
  | zero => exact absurd h (by simp)
  | succ r =>
      obtain ⟨⟨ms, rest'⟩, hloop, h⟩ := map_eq_ok_iff.mp h
      cases h
      exact ⟨r, ms, rfl, rfl, hloop⟩

/-- What is read without a bracket is neither an array nor an object. -/
theorem bracket_or_scalar {fuel room : Nat} {cs rest : List Char} {v : Value}
    (h : readValue fuel room cs = .ok (v, rest)) :
    (∃ inner, skipBlanks cs = '[' :: inner) ∨ (∃ inner, skipBlanks cs = '\x7b' :: inner) ∨
      (∀ vs, v ≠ .array vs) ∧ v.isObject = false := by
  unfold readValue at h
  split at h
  case h_1 => exact absurd h (by simp)
  case h_2 | h_3 | h_4 =>
      rw [eq_of_word h]
      exact Or.inr (Or.inr ⟨fun vs hvs => (by cases hvs), rfl⟩)
  case h_5 =>
      obtain ⟨⟨text, rest'⟩, -, h⟩ := map_eq_ok_iff.mp h
      cases h
      exact Or.inr (Or.inr ⟨fun vs hvs => (by cases hvs), rfl⟩)
  case h_6 inner hcs => exact Or.inl ⟨inner, hcs⟩
  case h_7 inner hcs => exact Or.inr (Or.inl ⟨inner, hcs⟩)
  case h_8 =>
      split at h
      · obtain ⟨⟨n, rest'⟩, -, h⟩ := map_eq_ok_iff.mp h
        cases h
        exact Or.inr (Or.inr ⟨fun vs hvs => (by cases hvs), rfl⟩)
      · exact absurd h (by simp)

/-- **A value is no deeper than the room** in which it has been read. -/
theorem depth_le_of_readValue {fuel room : Nat} {cs rest : List Char} {v : Value}
    (h : readValue fuel room cs = .ok (v, rest)) : v.depth ≤ room := by
  induction room generalizing cs rest v with
  | zero =>
      rcases readValue_cases h with hdepth | ⟨r, vs, inner, hroom, -⟩ | ⟨r, ms, inner, hroom, -⟩
      · exact Nat.le_of_eq hdepth
      · omega
      · omega
  | succ room ih =>
      rcases readValue_cases h with hdepth | ⟨r, vs, inner, hroom, rfl, hloop⟩ |
        ⟨r, ms, inner, hroom, rfl, hloop⟩
      · omega
      · obtain rfl : room = r := Nat.succ.inj hroom
        rw [depth_array_le_iff]
        intro w hw
        -- The loop holds the elements latest first, which makes no difference to their depth.
        have hkeep : ∀ w ∈ vs, w.depth ≤ room := by
          refine readElements_keeps (fun vs => ∀ w ∈ vs, w.depth ≤ room) ?_ (by simp) hloop
          intro done cs after rest hdone hstep
          obtain ⟨⟨w, rest'⟩, hread, hafter⟩ := bind_eq_ok_iff.mp hstep
          cases hafter
          exact List.forall_mem_cons.mpr ⟨ih hread, hdone⟩
        exact hkeep w (List.mem_reverse.mp hw)
      · obtain rfl : room = r := Nat.succ.inj hroom
        rw [depth_object_le_iff]
        refine readMembers_keeps (fun ms => ∀ m ∈ ms, m.2.depth ≤ room) ?_ (by simp) hloop
        -- A name that comes again only changes the value of a member, so no other member is new.
        intro done name cs after rest hdone hstep m hm
        obtain ⟨cs', -, hstep⟩ := bind_eq_ok_iff.mp hstep
        obtain ⟨⟨w, rest'⟩, hread, hafter⟩ := bind_eq_ok_iff.mp hstep
        cases hafter
        rcases Entries.eq_or_mem_of_mem_set hm with rfl | hm
        · exact ih hread
        · exact hdone m hm

end QueryGraph.Json
