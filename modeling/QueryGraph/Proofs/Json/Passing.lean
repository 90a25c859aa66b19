import Mathlib.Data.List.DropRight
import QueryGraph.Proofs.Json.Room
import QueryGraph.Proofs.Json.Skip

/-!
# `Proofs.Json.Passing` — what can be read can be passed over

A skipper checks less than a reader: not the size of numbers, not the halves of surrogate pairs and not
the depth. So there is no value in a text that can be read and not be skipped, and both end at the same
place. This holds for every text, not only for those that have been written from a value.

A reader goes down into brackets and comes back; the skipper goes on and on, with a list of open brackets.
The run of the skipper over a value is therefore stated as in `Proofs.Json.Skip`: what is left of it is the
run from the end of the value on (`Passes`).

## Contents
- `skipString_of_readString`, `skipNumber_of_readNumber`, `word_eq_ok` — literals, which take at least one
  character (`length_lt_of_skipString`, `scanNumeral_eq_ok`).
- `Passes`, `PassesInside` — a value is passed over, and so is the rest of an array or object.
- `Bracket.Continues`, `continues_of_nextElement`, `continues_of_nextName` — from value to value.
- `passesInside_of_readElements`, `passesInside_of_readMembers` — the loops.
- `passes_of_readValue`, `skipValue_of_readValue` — the main statements.
-/

namespace QueryGraph.Json

variable {α : Type} {cs rest : List Char}

/-! ## Literals -/

theorem skipString_of_readStringOnto {done : List Char} {text : String}
    (h : readStringOnto done cs = .ok (text, rest)) : skipString cs = .ok rest := by
  fun_induction readStringOnto done cs <;> simp_all [skipString]

/-- **A string that can be decoded** can be passed over. -/
theorem skipString_of_readString {text : String} (h : readString cs = .ok (text, rest)) :
    skipString cs = .ok rest :=
  skipString_of_readStringOnto h

theorem length_lt_of_skipString (h : skipString cs = .ok rest) : rest.length < cs.length := by
  fun_induction skipString cs <;> simp_all <;> omega

/-- A word is found whatever it stands for. -/
theorem word_eq_ok {value v : α} {letters : List Char} (h : word value letters cs = .ok (v, rest))
    {β : Type} (value' : β) :
    word value' letters cs = .ok (value', rest) ∧ rest.length ≤ cs.length := by
  induction letters generalizing cs with
  | nil =>
      cases h
      exact ⟨rfl, Nat.le_refl _⟩
  | cons letter letters ih =>
      cases cs with
      | nil => exact absurd h (by simp [word])
      | cons c cs =>
          rw [word] at h ⊢
          split at h
          case isTrue hc =>
              obtain ⟨hword, hle⟩ := ih h
              rw [if_pos hc]
              exact ⟨hword, Nat.le_succ_of_le hle⟩
          case isFalse => exact absurd h (by simp)

/-- **A run of digits** is found whatever would be reported without it, and takes a character. -/
theorem someDigits_eq_ok {atEnd : Cause} {digits : List Char}
    (h : someDigits atEnd cs = .ok (digits, rest)) (atEnd' : Cause) :
    someDigits atEnd' cs = .ok (digits, rest) ∧ rest.length < cs.length := by
  have hcs := congrArg List.length (digitsOf_append cs)
  unfold someDigits at h ⊢
  generalize digitsOf cs = found at h hcs ⊢
  obtain ⟨_ | ⟨d, ds⟩, rest'⟩ := found
  · cases rest' <;> exact absurd h (by simp)
  · cases h
    simp only [List.length_append, List.length_cons] at hcs
    exact ⟨rfl, by omega⟩

theorem scanWhole_eq_ok {atEnd : Cause} {digits : List Char}
    (h : scanWhole atEnd cs = .ok (digits, rest)) (atEnd' : Cause) :
    scanWhole atEnd' cs = .ok (digits, rest) ∧ rest.length < cs.length := by
  unfold scanWhole at h ⊢
  split at h
  · -- A zero is on its own, and nothing that could be missing comes behind it.
    refine ⟨h, ?_⟩
    split at h
    · split at h
      · exact absurd h (by simp)
      · cases h
        exact Nat.lt_succ_self _
    · cases h
      exact Nat.lt_succ_self _
  · exact someDigits_eq_ok h atEnd'

theorem scanFraction_eq_ok {atEnd : Cause} {digits : Option (List Char)}
    (h : scanFraction atEnd cs = .ok (digits, rest)) (atEnd' : Cause) :
    scanFraction atEnd' cs = .ok (digits, rest) ∧ rest.length ≤ cs.length := by
  unfold scanFraction at h ⊢
  split at h
  · obtain ⟨⟨ds, rest'⟩, hdigits, h⟩ := bind_eq_ok_iff.mp h
    obtain ⟨hdigits', hlt⟩ := someDigits_eq_ok hdigits atEnd'
    cases h
    exact ⟨bind_eq_ok_iff.mpr ⟨_, hdigits', rfl⟩, Nat.le_succ_of_le (Nat.le_of_lt hlt)⟩
  · cases h
    exact ⟨rfl, Nat.le_refl _⟩

theorem length_scanSign_le (cs : List Char) : (scanSign cs).2.length ≤ cs.length := by
  unfold scanSign
  split <;> simp

theorem scanExponent_eq_ok {atEnd : Cause} {exponent : Option TenExponent}
    (h : scanExponent atEnd cs = .ok (exponent, rest)) (atEnd' : Cause) :
    scanExponent atEnd' cs = .ok (exponent, rest) ∧ rest.length ≤ cs.length := by
  unfold scanExponent at h ⊢
  split at h
  case h_3 =>
      cases h
      exact ⟨rfl, Nat.le_refl _⟩
  all_goals
    rename_i behind
    have hsign := length_scanSign_le behind
    generalize scanSign behind = sign at h hsign ⊢
    obtain ⟨⟨ds, rest'⟩, hdigits, h⟩ := bind_eq_ok_iff.mp h
    obtain ⟨hdigits', hlt⟩ := someDigits_eq_ok hdigits atEnd'
    cases h
    refine ⟨bind_eq_ok_iff.mpr ⟨_, hdigits', rfl⟩, ?_⟩
    rw [List.length_cons]
    omega

/-- What a literal is taken apart into behind its sign, if it has one. -/
theorem exists_unsigned (cs : List Char) :
    ∃ negative unsigned, unsigned.length ≤ cs.length ∧ ∀ atEnd, scanNumeral atEnd cs = do
      let (whole, cs) ← scanWhole atEnd unsigned
      let (fraction, cs) ← scanFraction atEnd cs
      let (exponent, cs) ← scanExponent atEnd cs
      return (⟨negative, whole, fraction, exponent⟩, cs) := by
  unfold scanNumeral
  split
  rename_i negative unsigned hsign
  refine ⟨negative, unsigned, ?_, fun _ => rfl⟩
  split at hsign
  · cases hsign
    exact Nat.le_succ _
  · cases hsign
    exact Nat.le_refl _

/-- **A literal is taken apart** whatever would be reported if it ended too early, and takes a character. -/
theorem scanNumeral_eq_ok {atEnd : Cause} {numeral : Numeral}
    (h : scanNumeral atEnd cs = .ok (numeral, rest)) (atEnd' : Cause) :
    scanNumeral atEnd' cs = .ok (numeral, rest) ∧ rest.length < cs.length := by
  obtain ⟨negative, unsigned, hle, hscan⟩ := exists_unsigned cs
  rw [hscan] at h ⊢
  obtain ⟨⟨whole, cs₁⟩, hwhole, h⟩ := bind_eq_ok_iff.mp h
  obtain ⟨⟨fraction, cs₂⟩, hfraction, h⟩ := bind_eq_ok_iff.mp h
  obtain ⟨⟨exponent, cs₃⟩, hexponent, h⟩ := bind_eq_ok_iff.mp h
  obtain ⟨hwhole', hlt₁⟩ := scanWhole_eq_ok hwhole atEnd'
  obtain ⟨hfraction', hle₂⟩ := scanFraction_eq_ok hfraction atEnd'
  obtain ⟨hexponent', hle₃⟩ := scanExponent_eq_ok hexponent atEnd'
  cases h
  refine ⟨?_, by omega⟩
  exact bind_eq_ok_iff.mpr ⟨_, hwhole', bind_eq_ok_iff.mpr ⟨_, hfraction',
    bind_eq_ok_iff.mpr ⟨_, hexponent', rfl⟩⟩⟩

/-- **A number that can be read** can be passed over. -/
theorem skipNumber_of_readNumber {number : Number} (h : readNumber cs = .ok (number, rest)) :
    skipNumber cs = .ok rest ∧ rest.length < cs.length := by
  obtain ⟨⟨numeral, rest'⟩, hscan, h⟩ := bind_eq_ok_iff.mp h
  obtain ⟨hscan', hlt⟩ := scanNumeral_eq_ok hscan .malformedNumber
  dsimp only at h
  split at h
  · cases h
    rw [skipNumber, hscan']
    exact ⟨rfl, hlt⟩
  · exact absurd h (by simp)

/-! ## Blanks -/

theorem length_skipBlanks_le (cs : List Char) : (skipBlanks cs).length ≤ cs.length :=
  (List.dropWhile_suffix isBlank).length_le

theorem length_lt_of_skipBlanks {c : Char} (h : skipBlanks cs = c :: rest) : rest.length < cs.length := by
  have hle := length_skipBlanks_le cs
  rw [h, List.length_cons] at hle
  omega

theorem skipBlanks_skipBlanks (cs : List Char) : skipBlanks (skipBlanks cs) = skipBlanks cs :=
  List.dropWhile_idempotent isBlank cs

/-- A reader passes over blanks anyway. -/
theorem readValue_skipBlanks (fuel room : Nat) (cs : List Char) :
    readValue fuel room (skipBlanks cs) = readValue fuel room cs := by
  rw [readValue, skipBlanks_skipBlanks, ← readValue]

/-! ## Runs of the skipper -/

/-- **A value is passed over**: after some rounds, of which there are no more than characters, the skipper
stands behind it, whatever brackets are open around it. -/
def Passes (cs rest : List Char) : Prop :=
  ∃ rounds, rounds + rest.length ≤ cs.length ∧
    ∀ fuel stack, skipInside (rounds + fuel) stack cs = skipRest true fuel stack rest

/-- The rest of an array or object is passed over, and its closing bracket with it. -/
def PassesInside (bracket : Bracket) (comma : Bool) (cs rest : List Char) : Prop :=
  ∃ rounds, rounds + rest.length ≤ cs.length ∧
    ∀ fuel stack, skipRest comma (rounds + fuel) (bracket :: stack) cs = skipRest true fuel stack rest

/-- A scalar takes one round. -/
theorem passes_of_token (hlt : rest.length < cs.length)
    (h : ∀ stack, skipToken stack cs = .ok ((true, stack), rest)) : Passes cs rest := by
  refine ⟨1, by omega, fun fuel stack => ?_⟩
  rw [Nat.add_comm, skipInside_succ, h stack]
  rfl

/-- So does an opening bracket. -/
theorem passes_of_opening {bracket : Bracket} {inner : List Char} (hlt : inner.length < cs.length)
    (h : ∀ stack, skipToken stack cs = .ok ((false, bracket :: stack), inner))
    (hinner : PassesInside bracket false inner rest) : Passes cs rest := by
  obtain ⟨rounds, hle, hrun⟩ := hinner
  refine ⟨rounds + 1, by omega, fun fuel stack => ?_⟩
  rw [Nat.add_right_comm, skipInside_succ, h stack]
  exact hrun fuel stack

/-- **One more value** in an array or object is passed over before the others. -/
theorem passesInside_of_next {bracket : Bracket} {comma : Bool} {ahead behind : List Char}
    (hle : ahead.length ≤ cs.length)
    (h : ∀ stack, toNextValue comma (bracket :: stack) cs = .ok (bracket :: stack, ahead))
    (hvalue : Passes ahead behind) (hothers : PassesInside bracket true behind rest) :
    PassesInside bracket comma cs rest := by
  obtain ⟨rounds, hrounds, hrun⟩ := hvalue
  obtain ⟨others, hothers, hrun'⟩ := hothers
  refine ⟨rounds + others, by omega, fun fuel stack => ?_⟩
  rw [← hrun' fuel stack, ← hrun (others + fuel) (bracket :: stack), ← Nat.add_assoc]
  simp only [skipRest, h stack]
  rfl

/-! ## From value to value -/

/-- **Where the next item starts** in an array or object: at the first character, or behind a comma. -/
inductive Bracket.Continues (bracket : Bracket) (cs : List Char) : Bool → List Char → Prop
  | first {c : Char} {behind : List Char} (hcs : skipBlanks cs = c :: behind) (hc : c ≠ bracket.closer) :
      Continues bracket cs true (c :: behind)
  | next {behind : List Char} (hcs : skipBlanks cs = ',' :: behind) : Continues bracket cs false behind

theorem Bracket.Continues.length_le {bracket : Bracket} {first : Bool} {start : List Char}
    (h : bracket.Continues cs first start) : start.length ≤ cs.length := by
  cases h with
  | first hcs hc => exact length_lt_of_skipBlanks hcs
  | next hcs => exact Nat.le_of_lt (length_lt_of_skipBlanks hcs)

/-- The skipper finds the same place. -/
theorem toNextValue_of_continues {bracket : Bracket} {first : Bool} {start ahead : List Char}
    (h : bracket.Continues cs first start) (hahead : bracket.beforeValue start = .ok ahead)
    (stack : List Bracket) :
    toNextValue (!first) (bracket :: stack) cs = .ok (bracket :: stack, ahead) := by
  cases h with
  | first hcs hc =>
      rw [toNextValue, hcs]
      simp [hc, hahead, Except.map]
  | next hcs =>
      have hcomma : ',' ≠ bracket.closer := by cases bracket <;> decide
      rw [toNextValue, hcs]
      simp [hcomma, hahead, Except.map]

theorem toNextValue_of_closer {bracket : Bracket} (hcs : skipBlanks cs = bracket.closer :: rest)
    (comma : Bool) (stack : List Bracket) :
    toNextValue comma (bracket :: stack) cs = toNextValue true stack rest := by
  rw [toNextValue, hcs]
  simp

/-- An array ends at its closing bracket. -/
theorem skipBlanks_of_nextElement {first : Bool} (h : nextElement first cs = .ok (false, rest)) :
    skipBlanks cs = Bracket.array.closer :: rest := by
  unfold nextElement at h
  split at h
  case h_1 => exact absurd h (by simp)
  case h_2 behind hcs =>
      cases h
      exact hcs
  case h_3 =>
      repeat' split at h
      all_goals exact absurd h (by simp)

/-- The next element is found where the array continues. -/
theorem continues_of_nextElement {first : Bool} {found : List Char}
    (h : nextElement first cs = .ok (true, found)) :
    ∃ start, Bracket.array.Continues cs first start ∧ skipBlanks start = found := by
  unfold nextElement at h
  split at h
  case h_1 => exact absurd h (by simp)
  case h_2 => exact absurd h (by simp)
  case h_3 c behind hclose hcs =>
      split at h
      case isTrue hfirst =>
          cases h
          obtain rfl := hfirst
          exact ⟨_, .first hcs hclose, by rw [← hcs, skipBlanks_skipBlanks]⟩
      case isFalse hfirst =>
          obtain rfl := Bool.eq_false_iff.mpr hfirst
          split at h
          case isFalse => exact absurd h (by simp)
          case isTrue hcomma =>
              rw [hcomma] at hcs
              refine ⟨behind, .next hcs, ?_⟩
              split at h
              case h_3 =>
                  cases h
                  rfl
              all_goals exact absurd h (by simp)

theorem memberName_ne_none (cs rest : List Char) : memberName cs ≠ .ok (none, rest) := by
  intro h
  obtain ⟨⟨text, found⟩, -, h⟩ := bind_eq_ok_iff.mp h
  cases h

/-- An object ends at its closing bracket. -/
theorem skipBlanks_of_nextName {first : Bool} (h : nextName first cs = .ok (none, rest)) :
    skipBlanks cs = Bracket.object.closer :: rest := by
  unfold nextName at h
  split at h
  case h_1 => exact absurd h (by simp)
  case h_2 behind hcs =>
      cases h
      exact hcs
  case h_3 =>
      repeat' split at h
      all_goals first | exact absurd h (memberName_ne_none _ _) | exact absurd h (by simp)

/-- The next name is found where the object continues. -/
theorem continues_of_nextName {first : Bool} {name : String} {found : List Char}
    (h : nextName first cs = .ok (some name, found)) :
    ∃ start inner, Bracket.object.Continues cs first start ∧ skipBlanks start = '"' :: inner ∧
      memberName inner = .ok (some name, found) := by
  unfold nextName at h
  split at h
  case h_1 => exact absurd h (by simp)
  case h_2 => exact absurd h (by simp)
  case h_3 c behind hclose hcs =>
      split at h
      case isTrue hfirst =>
          obtain rfl := hfirst
          split at h
          case isFalse => exact absurd h (by simp)
          case isTrue hquote =>
              rw [hquote] at hcs hclose
              exact ⟨_, behind, .first hcs hclose, skipBlanks_cons (by decide) behind, h⟩
      case isFalse hfirst =>
          obtain rfl := Bool.eq_false_iff.mpr hfirst
          split at h
          case isFalse => exact absurd h (by simp)
          case isTrue hcomma =>
              rw [hcomma] at hcs
              split at h
              case h_2 inner hbehind => exact ⟨behind, inner, .next hcs, hbehind, h⟩
              all_goals exact absurd h (by simp)

theorem length_le_of_nextElement {first more : Bool} {found : List Char}
    (h : nextElement first cs = .ok (more, found)) : found.length ≤ cs.length := by
  cases more with
  | true =>
      obtain ⟨start, hstart, rfl⟩ := continues_of_nextElement h
      exact Nat.le_trans (length_skipBlanks_le start) hstart.length_le
  | false => exact Nat.le_of_lt (length_lt_of_skipBlanks (skipBlanks_of_nextElement h))

theorem length_lt_of_colon (h : colon cs = .ok rest) : rest.length < cs.length := by
  unfold colon at h
  split at h
  case h_2 behind hcs =>
      cases h
      exact length_lt_of_skipBlanks hcs
  all_goals exact absurd h (by simp)

/-- A name and the colon behind it are passed over. -/
theorem beforeValue_of_memberName {name : String} {inner found ahead : List Char}
    (hcs : skipBlanks cs = '"' :: inner) (hname : memberName inner = .ok (some name, found))
    (hcolon : colon found = .ok ahead) :
    Bracket.object.beforeValue cs = .ok ahead ∧ ahead.length ≤ cs.length := by
  obtain ⟨⟨text, found'⟩, hread, hname⟩ := bind_eq_ok_iff.mp hname
  cases hname
  have hskip := skipString_of_readString hread
  have hlt := length_lt_of_skipBlanks hcs
  have hlt' := length_lt_of_skipString hskip
  have hlt'' := length_lt_of_colon hcolon
  refine ⟨?_, by omega⟩
  rw [Bracket.beforeValue, hcs]
  exact bind_eq_ok_iff.mpr ⟨found, hskip, hcolon⟩

/-- From the end of a member the skipper gets to the value of the next one. -/
theorem toNextValue_of_nextName {first : Bool} {name : String} {found ahead : List Char}
    (h : nextName first cs = .ok (some name, found)) (hcolon : colon found = .ok ahead) :
    ahead.length ≤ cs.length ∧
      ∀ stack, toNextValue (!first) (.object :: stack) cs = .ok (.object :: stack, ahead) := by
  obtain ⟨start, inner, hstart, hquote, hname⟩ := continues_of_nextName h
  obtain ⟨hbefore, hle⟩ := beforeValue_of_memberName hquote hname hcolon
  exact ⟨Nat.le_trans hle hstart.length_le, toNextValue_of_continues hstart hbefore⟩

/-! ## Values -/

theorem passesInside_of_closer {bracket : Bracket} {comma : Bool}
    (hcs : skipBlanks cs = bracket.closer :: rest) : PassesInside bracket comma cs rest := by
  have hlt := length_lt_of_skipBlanks hcs
  refine ⟨0, by omega, fun fuel stack => ?_⟩
  rw [Nat.zero_add]
  simp only [skipRest, toNextValue_of_closer hcs]

section Loop

variable {read : Reader Value} (hread : ∀ {cs rest v}, read cs = .ok (v, rest) → Passes cs rest)
include hread

/-- **The rest of an array that is read** is passed over. -/
theorem passesInside_of_readElements (hblanks : ∀ cs, read (skipBlanks cs) = read cs) {n : Nat}
    {first : Bool} {done vs : List Value}
    (h : readElements (addElement read) n first done cs = .ok (vs, rest)) :
    PassesInside .array (!first) cs rest := by
  induction n generalizing first done cs with
  | zero => exact absurd h (by simp [readElements])
  | succ n ih =>
      rw [readElements] at h
      obtain ⟨⟨more, found⟩, hnext, h⟩ := bind_eq_ok_iff.mp h
      cases more with
      | false =>
          cases h
          exact passesInside_of_closer (skipBlanks_of_nextElement hnext)
      | true =>
          obtain ⟨⟨done', behind⟩, hstep, h⟩ := bind_eq_ok_iff.mp h
          obtain ⟨⟨v, behind'⟩, hvalue, hstep⟩ := bind_eq_ok_iff.mp hstep
          cases hstep
          obtain ⟨start, hstart, hfound⟩ := continues_of_nextElement hnext
          rw [← hfound, hblanks] at hvalue
          exact passesInside_of_next hstart.length_le (toNextValue_of_continues hstart rfl)
            (hread hvalue) (ih h)

/-- **The rest of an object that is read** is passed over. -/
theorem passesInside_of_readMembers {n : Nat} {first : Bool} {done ms : List (String × Value)}
    (h : readMembers (addMember read) n first done cs = .ok (ms, rest)) :
    PassesInside .object (!first) cs rest := by
  induction n generalizing first done cs with
  | zero => exact absurd h (by simp [readMembers])
  | succ n ih =>
      rw [readMembers] at h
      obtain ⟨⟨name, found⟩, hnext, h⟩ := bind_eq_ok_iff.mp h
      cases name with
      | none =>
          cases h
          exact passesInside_of_closer (skipBlanks_of_nextName hnext)
      | some name =>
          obtain ⟨⟨done', behind⟩, hstep, h⟩ := bind_eq_ok_iff.mp h
          obtain ⟨ahead, hcolon, hstep⟩ := bind_eq_ok_iff.mp hstep
          obtain ⟨⟨v, behind'⟩, hvalue, hstep⟩ := bind_eq_ok_iff.mp hstep
          cases hstep
          obtain ⟨hle, hahead⟩ := toNextValue_of_nextName hnext hcolon
          exact passesInside_of_next hle hahead (hread hvalue) (ih h)

end Loop

theorem skipToken_skipBlanks (stack : List Bracket) (cs : List Char) :
    skipToken stack (skipBlanks cs) = skipToken stack cs := by
  rw [skipToken, skipBlanks_skipBlanks, ← skipToken]

/-- **Whatever value is read** is passed over. -/
theorem passes_of_readValue {fuel room : Nat} {v : Value}
    (h : readValue fuel room cs = .ok (v, rest)) : Passes cs rest := by
  induction room using Nat.strongRecOn generalizing cs rest v with
  | ind room ih =>
      -- A word, a string or a number takes one round, wherever it stands.
      have hscalar : ∀ {c inner}, skipBlanks cs = c :: inner → rest.length ≤ inner.length →
          (∀ stack, skipToken stack (c :: inner) = .ok ((true, stack), rest)) → Passes cs rest := by
        intro c inner hcs hle htoken
        have hlt := length_lt_of_skipBlanks hcs
        refine passes_of_token (by omega) fun stack => ?_
        rw [← skipToken_skipBlanks, hcs, htoken stack]
      have hvalue := h
      unfold readValue at h
      split at h
      case h_1 => exact absurd h (by simp)
      case h_2 inner hcs =>
          exact hscalar hcs (word_eq_ok h ()).2 fun stack => (word_eq_ok h (true, stack)).1
      case h_3 inner hcs =>
          exact hscalar hcs (word_eq_ok h ()).2 fun stack => (word_eq_ok h (true, stack)).1
      case h_4 inner hcs =>
          exact hscalar hcs (word_eq_ok h ()).2 fun stack => (word_eq_ok h (true, stack)).1
      case h_5 inner hcs =>
          obtain ⟨⟨text, rest'⟩, hread, h⟩ := map_eq_ok_iff.mp h
          cases h
          have hskip := skipString_of_readString hread
          refine hscalar hcs (Nat.le_of_lt (length_lt_of_skipString hskip)) fun stack => ?_
          rw [skipToken, skipBlanks_cons (by decide)]
          exact map_eq_ok_iff.mpr ⟨_, hskip, rfl⟩
      case h_6 inner hcs =>
          obtain ⟨room, vs, rfl, -, hloop⟩ := exists_elements_of_readValue hcs hvalue
          refine passes_of_opening (length_lt_of_skipBlanks hcs) (fun stack => ?_)
            (passesInside_of_readElements (ih room (Nat.lt_succ_self room)) (readValue_skipBlanks fuel room)
              hloop)
          rw [← skipToken_skipBlanks, hcs]
          rfl
      case h_7 inner hcs =>
          obtain ⟨room, ms, rfl, -, hloop⟩ := exists_members_of_readValue hcs hvalue
          refine passes_of_opening (length_lt_of_skipBlanks hcs) (fun stack => ?_)
            (passesInside_of_readMembers (ih room (Nat.lt_succ_self room)) hloop)
          rw [← skipToken_skipBlanks, hcs]
          rfl
      case h_8 c inner _ _ _ _ _ _ hcs =>
          split at h
          case isFalse => exact absurd h (by simp)
          case isTrue hstart =>
            obtain ⟨⟨number, rest'⟩, hread, h⟩ := map_eq_ok_iff.mp h
            cases h
            obtain ⟨hskip, hlt⟩ := skipNumber_of_readNumber hread
            refine hscalar hcs (Nat.le_of_lt_succ hlt) fun stack => ?_
            rw [skipToken_number hstart, hskip]
            rfl

theorem length_le_of_readValue {fuel room : Nat} {v : Value}
    (h : readValue fuel room cs = .ok (v, rest)) : rest.length ≤ cs.length := by
  obtain ⟨rounds, hle, -⟩ := passes_of_readValue h
  omega

/-- **What can be read can be passed over**, and the rest of the text is left. -/
theorem skipValue_of_readValue {fuel room fuel' : Nat} {v : Value}
    (h : readValue fuel room cs = .ok (v, rest)) (hfuel : cs.length ≤ fuel') :
    skipValue fuel' cs = .ok rest := by
  obtain ⟨rounds, hle, hrun⟩ := passes_of_readValue h
  obtain ⟨more, rfl⟩ := Nat.exists_eq_add_of_le (show rounds ≤ fuel' by omega)
  rw [skipValue, hrun more []]
  rfl

end QueryGraph.Json
