import QueryGraph.Json.Numeral
import QueryGraph.Json.StringLiteral
import QueryGraph.Json.Word

/-!
# `Proofs.Json.Literals` — written literals are read back

What is written for a string or an integer is taken off the front of any text that starts with it, by
the reader that decodes it as well as by the one that passes over it. A string says itself where it
ends; a number has to be followed by something that cannot be part of it (`EndsNumber`).

## Contents
- `escape_cases` — the three ways in which a character is written.
- `readString_escaped`, `skipString_escaped` — strings.
- `EndsNumber` — what may follow a number.
- `scanNumeral_writeInteger`, `readNumber_writeInteger`, `skipNumber_writeInteger` — integers.
-/

namespace QueryGraph.Json

/-! ## Strings -/

/-- A character is written behind a backslash, by a letter or by its number, or it stands for itself. -/
theorem escape_cases (c : Char) :
    (∃ letter, letter ≠ 'u' ∧ escapedBy? letter = some c ∧ escape c = ['\\', letter]) ∨
    (c.toNat < 0x20 ∧ escape c =
      ['\\', 'u', '0', '0', Text.hexDigit (c.toNat / 16), Text.hexDigit (c.toNat % 16)]) ∨
    (c ≠ '"' ∧ c ≠ '\\' ∧ ¬ c.toNat < 0x20 ∧ escape c = [c]) := by
  unfold escape
  split
  · exact Or.inl ⟨'"', by decide, rfl, rfl⟩
  · exact Or.inl ⟨'\\', by decide, rfl, rfl⟩
  · exact Or.inl ⟨'b', by decide, rfl, rfl⟩
  · exact Or.inl ⟨'f', by decide, rfl, rfl⟩
  · exact Or.inl ⟨'n', by decide, rfl, rfl⟩
  · exact Or.inl ⟨'r', by decide, rfl, rfl⟩
  · exact Or.inl ⟨'t', by decide, rfl, rfl⟩
  · rename_i hquote hbackslash _ _ _ _ _
    by_cases hcontrol : c.toNat < 0x20
    · rw [if_pos hcontrol]
      exact Or.inr (Or.inl ⟨hcontrol, rfl⟩)
    · rw [if_neg hcontrol]
      exact Or.inr (Or.inr ⟨hquote, hbackslash, hcontrol, rfl⟩)

/-- The two last digits of a control character give its number. -/
theorem hexUnit?_control {n : Nat} (h : n < 0x20) :
    hexUnit? '0' '0' (Text.hexDigit (n / 16)) (Text.hexDigit (n % 16)) = some n := by
  have hhigh := Text.hexValue?_hexDigit (n / 16) (by omega)
  have hlow := Text.hexValue?_hexDigit (n % 16) (by omega)
  have hzero : Text.hexValue? '0' = some 0 := by decide
  simp only [hexUnit?, hhigh, hlow, hzero]
  show some _ = some n
  congr 1
  omega

/-- **A written character is decoded** to itself. -/
theorem readStringOnto_escape (c : Char) (done rest : List Char) :
    readStringOnto done (escape c ++ rest) = readStringOnto (c :: done) rest := by
  rcases escape_cases c with ⟨letter, hletter, hc, hwritten⟩ | ⟨hcontrol, hwritten⟩ |
    ⟨hquote, hbackslash, hcontrol, hwritten⟩
  · rw [hwritten]
    simp [readStringOnto, hc]
  · have hunit := hexUnit?_control hcontrol
    have htrailing : isTrailing c.toNat = false := by simp [isTrailing]; omega
    have hleading : isLeading c.toNat = false := by simp [isLeading]; omega
    rw [hwritten]
    simp [readStringOnto, hunit, htrailing, hleading, Char.ofNat_toNat]
  · rw [hwritten]
    simp [readStringOnto, hcontrol]

/-- **A written character is passed over.** -/
theorem skipString_escape (c : Char) (rest : List Char) :
    skipString (escape c ++ rest) = skipString rest := by
  rcases escape_cases c with ⟨letter, hletter, hc, hwritten⟩ | ⟨hcontrol, hwritten⟩ |
    ⟨hquote, hbackslash, hcontrol, hwritten⟩
  · rw [hwritten]
    simp [skipString, hc]
  · have hunit := hexUnit?_control hcontrol
    rw [hwritten]
    simp [skipString, hunit]
  · rw [hwritten]
    simp [skipString, hcontrol]

theorem readStringOnto_escaped (cs done rest : List Char) :
    readStringOnto done (cs.flatMap escape ++ '"' :: rest) =
      .ok (String.ofList (done.reverse ++ cs), rest) := by
  induction cs generalizing done with
  | nil => simp [readStringOnto]
  | cons c cs ih =>
      rw [List.flatMap_cons, List.append_assoc, readStringOnto_escape, ih]
      simp

/-- **A written string is decoded** to itself. -/
theorem readString_escaped (s : String) (rest : List Char) :
    readString (s.toList.flatMap escape ++ '"' :: rest) = .ok (s, rest) := by
  rw [readString, readStringOnto_escaped]
  simp

/-- **A written string is passed over.** -/
theorem skipString_escaped (cs rest : List Char) :
    skipString (cs.flatMap escape ++ '"' :: rest) = .ok rest := by
  induction cs with
  | nil => simp [skipString]
  | cons c cs ih => rw [List.flatMap_cons, List.append_assoc, skipString_escape, ih]

/-! ## Integers -/

/-- The text does not go on with a character that could belong to a number in front of it. -/
def EndsNumber (rest : List Char) : Prop :=
  ∀ c ∈ rest.head?, c.isDigit = false ∧ c ≠ '.' ∧ c ≠ 'e' ∧ c ≠ 'E'

theorem digitsOf_append_of_endsNumber {digits rest : List Char}
    (hdigits : ∀ c ∈ digits, c.isDigit = true) (hrest : EndsNumber rest) :
    digitsOf (digits ++ rest) = (digits, rest) := by
  have hnone : rest.takeWhile Char.isDigit = [] ∧ rest.dropWhile Char.isDigit = rest := by
    cases rest with
    | nil => exact ⟨rfl, rfl⟩
    | cons c rest =>
        have hc := (hrest c rfl).1
        simp [hc]
  rw [digitsOf, List.takeWhile_append_of_pos hdigits, List.dropWhile_append_of_pos hdigits, hnone.1,
    hnone.2, List.append_nil]

/-- The digits of a positive number do not start with a zero. -/
theorem head?_toDigits_ne_zero {n : Nat} (h : 0 < n) : (Nat.toDigits 10 n).head? ≠ some '0' := by
  induction n using Nat.strongRecOn with
  | ind n ih =>
    by_cases hn : n < 10
    · rw [Nat.toDigits_of_lt_base hn, List.head?_cons, Ne, Option.some.injEq, Nat.digitChar_eq_zero]
      omega
    · rw [Nat.toDigits_of_base_le (by decide) (by omega), List.head?_append,
        Option.or_of_isSome (by simp)]
      exact ih (n / 10) (by omega) (by omega)

theorem isDigit_of_mem_toDigits {n : Nat} {c : Char} (h : c ∈ Nat.toDigits 10 n) : c.isDigit = true :=
  Nat.isDigit_of_mem_toDigits (by decide) (by decide) h

theorem scanWhole_toDigits (atEnd : Cause) (n : Nat) {rest : List Char} (h : EndsNumber rest) :
    scanWhole atEnd (Nat.toDigits 10 n ++ rest) = .ok (Nat.toDigits 10 n, rest) := by
  have hdigits : ∀ c ∈ Nat.toDigits 10 n, c.isDigit = true := fun _ => isDigit_of_mem_toDigits
  rcases Nat.eq_zero_or_pos n with rfl | hn
  · cases rest with
    | nil => rfl
    | cons c rest => simp [scanWhole, (h c rfl).1]
  · have hhead := head?_toDigits_ne_zero hn
    have hfound := digitsOf_append_of_endsNumber hdigits h
    cases hd : Nat.toDigits 10 n with
    | nil => exact absurd hd Nat.toDigits_ne_nil
    | cons c digits =>
        rw [hd] at hhead hfound
        have hc : c ≠ '0' := fun heq => hhead (by rw [heq]; rfl)
        rw [List.cons_append] at hfound ⊢
        simp [scanWhole, hc, someDigits, hfound]

theorem scanFraction_of_endsNumber (atEnd : Cause) {rest : List Char} (h : EndsNumber rest) :
    scanFraction atEnd rest = .ok (none, rest) := by
  cases rest with
  | nil => rfl
  | cons c rest => simp [scanFraction, (h c rfl).2.1]

theorem scanExponent_of_endsNumber (atEnd : Cause) {rest : List Char} (h : EndsNumber rest) :
    scanExponent atEnd rest = .ok (none, rest) := by
  cases rest with
  | nil => rfl
  | cons c rest => simp [scanExponent, (h c rfl).2.2.1, (h c rfl).2.2.2]

theorem isDigit_of_toDigits_eq_cons {n : Nat} {c : Char} {digits : List Char}
    (h : Nat.toDigits 10 n = c :: digits) : c.isDigit = true :=
  isDigit_of_mem_toDigits (h ▸ List.mem_cons_self)

/-- An integer starts with a minus sign or a digit. -/
theorem writeInteger_eq_cons (n : Int) :
    ∃ c cs, Number.writeInteger n = c :: cs ∧ (c = '-' ∨ c.isDigit = true) := by
  by_cases hn : n < 0
  · rw [Number.writeInteger, if_pos hn]
    exact ⟨'-', _, rfl, Or.inl rfl⟩
  · rw [Number.writeInteger, if_neg hn]
    cases hd : Nat.toDigits 10 n.natAbs with
    | nil => exact absurd hd Nat.toDigits_ne_nil
    | cons c digits => exact ⟨c, digits, rfl, Or.inr (isDigit_of_toDigits_eq_cons hd)⟩

/-- There is nothing else in an integer. -/
theorem minus_or_isDigit_of_mem_writeInteger {n : Int} {c : Char} (h : c ∈ Number.writeInteger n) :
    c = '-' ∨ c.isDigit = true := by
  rw [Number.writeInteger] at h
  split at h
  · exact (List.mem_cons.mp h).imp_right isDigit_of_mem_toDigits
  · exact Or.inr (isDigit_of_mem_toDigits h)

/-- Neither of these is a blank. -/
theorem isBlank_of_startsNumber {c : Char} (h : c = '-' ∨ c.isDigit = true) : isBlank c = false := by
  refine Bool.eq_false_iff.mpr fun hblank => ?_
  simp only [isBlank, Bool.or_eq_true, decide_eq_true_eq] at hblank
  rcases hblank with ((rfl | rfl) | rfl) | rfl <;> exact absurd h (by decide)

/-- **A written integer is taken apart** into its sign and its digits. -/
theorem scanNumeral_writeInteger (atEnd : Cause) (n : Int) {rest : List Char} (h : EndsNumber rest) :
    scanNumeral atEnd (Number.writeInteger n ++ rest) =
      .ok (⟨decide (n < 0), Nat.toDigits 10 n.natAbs, none, none⟩, rest) := by
  have hparts := scanWhole_toDigits atEnd n.natAbs h
  by_cases hn : n < 0
  · rw [Number.writeInteger, if_pos hn, List.cons_append]
    simp [scanNumeral, hparts, scanFraction_of_endsNumber atEnd h, scanExponent_of_endsNumber atEnd h,
      hn, bind, Except.bind, pure, Except.pure]
  · rw [Number.writeInteger, if_neg hn]
    cases hd : Nat.toDigits 10 n.natAbs with
    | nil => exact absurd hd Nat.toDigits_ne_nil
    | cons c digits =>
        have hc : c ≠ '-' := by
          rintro rfl
          exact absurd (isDigit_of_toDigits_eq_cons hd) (by decide)
        rw [hd, List.cons_append] at hparts
        simp [scanNumeral, hc, hparts, scanFraction_of_endsNumber atEnd h,
          scanExponent_of_endsNumber atEnd h, hn, bind, Except.bind, pure, Except.pure]

theorem digitsValue_toDigits (n : Nat) : digitsValue (Nat.toDigits 10 n) = n := by
  have hvalue := Nat.ofDigitChars_ten_toDigits (n := n)
  rw [Nat.ofDigitChars_eq_foldl] at hvalue
  simpa only [digitsValue, Nat.mul_comm 10] using hvalue

/-- An integer of 64 bits, with a sign or without. -/
def IsWord (n : Int) : Prop := -(Nat.pow 2 63 : Nat) ≤ n ∧ n < (Nat.pow 2 64 : Nat)

instance (n : Int) : Decidable (IsWord n) := inferInstanceAs (Decidable (_ ∧ _))

theorem integerNumber_of_isWord {n : Int} (h : IsWord n) :
    integerNumber (decide (n < 0)) n.natAbs = some (.integer n) := by
  obtain ⟨hlow, hhigh⟩ := h
  by_cases hn : n < 0
  · have hrange : 0 < n.natAbs ∧ n.natAbs ≤ Nat.pow 2 63 := by omega
    have hvalue : -(n.natAbs : Int) = n := by omega
    rw [integerNumber, if_pos (by simpa using hn), if_pos hrange, hvalue]
  · have hrange : n.natAbs < Nat.pow 2 64 := by omega
    have hvalue : (n.natAbs : Int) = n := by omega
    rw [integerNumber, if_neg (by simpa using hn), if_pos hrange, hvalue]

/-- **A written integer is decoded** to itself. -/
theorem readNumber_writeInteger {n : Int} (hn : IsWord n) {rest : List Char} (h : EndsNumber rest) :
    readNumber (Number.writeInteger n ++ rest) = .ok (.integer n, rest) := by
  have hvalue : Numeral.value ⟨decide (n < 0), Nat.toDigits 10 n.natAbs, none, none⟩ =
      .ok (.integer n) := by
    simp [Numeral.value, digitsValue_toDigits, integerNumber_of_isWord hn]
  rw [readNumber, scanNumeral_writeInteger _ n h]
  simp only [bind, Except.bind, hvalue]
  rfl

/-- **A written integer is passed over.** -/
theorem skipNumber_writeInteger (n : Int) {rest : List Char} (h : EndsNumber rest) :
    skipNumber (Number.writeInteger n ++ rest) = .ok rest := by
  rw [skipNumber, scanNumeral_writeInteger _ n h]
  rfl

end QueryGraph.Json
