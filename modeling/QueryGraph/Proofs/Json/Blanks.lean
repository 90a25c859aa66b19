import QueryGraph.Proofs.Json.Lines

/-!
# `Proofs.Json.Blanks` — layouts differ in blanks only

Of a written value in any layout, the compact layout remains when the blanks outside of string literals
are taken out (`withoutBlanks_writeAt`). What is inside a literal stays: the end of a literal is seen
from the left, with an eye on the backslashes in it.

## Contents
- `TextPart`, `withoutBlanks` — taking the blanks out.
- `withoutBlanks_writeString`, `withoutBlanks_writeInteger` — scalars keep every character.
- `withoutBlanks_lines`, `withoutBlanks_bracketed` — items lose what stands between them.
- `withoutBlanks_writeAt`, `withoutBlanks_document` — whole values and documents.
-/

namespace QueryGraph.Json

/-! ## Taking blanks out -/

/-- Where a character of a JSON text stands. -/
inductive TextPart where
  /-- Outside of string literals. -/
  | outside
  /-- Inside a string literal. -/
  | inside
  /-- Inside a string literal, right behind the backslash of an escape. -/
  | escaped
  deriving DecidableEq, Repr

/-- A text without the blanks that stand outside of string literals. -/
def withoutBlanks : TextPart → List Char → List Char
  | _, [] => []
  | .outside, c :: cs =>
    if isBlank c then withoutBlanks .outside cs
    else c :: withoutBlanks (if c = '"' then .inside else .outside) cs
  | .inside, c :: cs =>
    c :: withoutBlanks (if c = '"' then .outside else if c = '\\' then .escaped else .inside) cs
  | .escaped, c :: cs => c :: withoutBlanks .inside cs

variable {layout : Layout} {depth : Nat}

theorem withoutBlanks_blanks {bs : List Char} (hbs : ∀ c ∈ bs, isBlank c = true) (cs : List Char) :
    withoutBlanks .outside (bs ++ cs) = withoutBlanks .outside cs := by
  induction bs with
  | nil => rfl
  | cons b bs ih =>
      rw [List.cons_append, withoutBlanks, if_pos (hbs b List.mem_cons_self)]
      exact ih fun c hc => hbs c (List.mem_cons_of_mem b hc)

/-- Other characters stay. -/
theorem withoutBlanks_plain {text : List Char} (h : ∀ c ∈ text, isBlank c = false ∧ c ≠ '"')
    (cs : List Char) : withoutBlanks .outside (text ++ cs) = text ++ withoutBlanks .outside cs := by
  induction text with
  | nil => rfl
  | cons c text ih =>
      obtain ⟨hblank, hquote⟩ := h c List.mem_cons_self
      rw [List.cons_append, withoutBlanks, hblank, if_neg hquote, if_neg Bool.false_ne_true,
        ih fun d hd => h d (List.mem_cons_of_mem c hd), List.cons_append]

/-! ## Scalars -/

theorem hexDigit_ne : ∀ n < 16, Text.hexDigit n ≠ '"' ∧ Text.hexDigit n ≠ '\\' := by decide +kernel

theorem withoutBlanks_escape (c : Char) (cs : List Char) :
    withoutBlanks .inside (escape c ++ cs) = escape c ++ withoutBlanks .inside cs := by
  rcases escape_cases c with ⟨letter, hletter, hc, hwritten⟩ | ⟨hcontrol, hwritten⟩ |
    ⟨hquote, hbackslash, hcontrol, hwritten⟩
  · rw [hwritten]
    simp [withoutBlanks]
  · -- Neither digit is taken for the end of the literal or for another escape.
    obtain ⟨hhigh, hhigh'⟩ := hexDigit_ne (c.toNat / 16) (by omega)
    obtain ⟨hlow, hlow'⟩ := hexDigit_ne (c.toNat % 16) (by omega)
    rw [hwritten]
    simp [withoutBlanks, hhigh, hhigh', hlow, hlow']
  · rw [hwritten]
    simp [withoutBlanks, hquote, hbackslash]

theorem withoutBlanks_writeString (text : String) (cs : List Char) :
    withoutBlanks .outside (writeString text ++ cs) = writeString text ++ withoutBlanks .outside cs := by
  have hinside : ∀ letters : List Char,
      withoutBlanks .inside (letters.flatMap escape ++ '"' :: cs) =
        letters.flatMap escape ++ '"' :: withoutBlanks .outside cs := by
    intro letters
    induction letters with
    | nil => rfl
    | cons c letters ih => simp only [List.flatMap_cons, List.append_assoc, withoutBlanks_escape, ih]
  have hquote : isBlank '"' = false := rfl
  simp only [writeString, List.cons_append, List.append_assoc, List.nil_append, withoutBlanks, hquote,
    hinside, if_true, if_neg Bool.false_ne_true]

theorem withoutBlanks_writeInteger (n : Int) (cs : List Char) :
    withoutBlanks .outside (Number.writeInteger n ++ cs) =
      Number.writeInteger n ++ withoutBlanks .outside cs := by
  refine withoutBlanks_plain (fun c hc => ?_) cs
  have hstart : c = '-' ∨ c.isDigit = true := minus_or_isDigit_of_mem_writeInteger hc
  refine ⟨isBlank_of_startsNumber hstart, ?_⟩
  rintro rfl
  exact absurd hstart (by decide)

/-! ## Items -/

section Items

variable {α : Type} {text short : α → List Char} {items : List α}

/-- Between the items of an array or object stands nothing but commas and blanks. -/
theorem withoutBlanks_lines
    (h : ∀ x ∈ items, ∀ cs, withoutBlanks .outside (text x ++ cs) = short x ++ withoutBlanks .outside cs)
    (first : Bool) (cs : List Char) :
    withoutBlanks .outside (lines layout depth first (items.map text) ++ cs) =
      lines .compact depth first (items.map short) ++ withoutBlanks .outside cs := by
  have hline : ∀ c ∈ layout.line depth, isBlank c = true := fun c => isBlank_of_mem_line
  have hcomma : isBlank ',' = false := rfl
  induction items generalizing first with
  | nil => cases first <;> rfl
  | cons x items ih =>
      have hitems := ih (fun y hy => h y (List.mem_cons_of_mem x hy)) false
      have hx := h x List.mem_cons_self
      cases first with
      | true =>
          simp only [List.map_cons, lines, List.append_assoc]
          rw [withoutBlanks_blanks hline, hx, hitems]
          rfl
      | false =>
          simp only [List.map_cons, lines, List.append_assoc, List.cons_append]
          rw [withoutBlanks, hcomma, if_neg Bool.false_ne_true, if_neg (by decide),
            withoutBlanks_blanks hline, hx, hitems]
          rfl

theorem withoutBlanks_bracketed
    (h : ∀ x ∈ items, ∀ cs, withoutBlanks .outside (text x ++ cs) = short x ++ withoutBlanks .outside cs)
    {opening closing : Char} (hopening : isBlank opening = false ∧ opening ≠ '"')
    (hclosing : isBlank closing = false ∧ closing ≠ '"') (cs : List Char) :
    withoutBlanks .outside (bracketed layout depth opening closing (items.map text) ++ cs) =
      bracketed .compact depth opening closing (items.map short) ++ withoutBlanks .outside cs := by
  have hfoot : ∀ c ∈ foot layout depth (items.map text), isBlank c = true :=
    fun c => isBlank_of_mem_foot
  have hcompact : foot .compact depth (items.map short) = [] := by
    rw [foot]
    split <;> rfl
  simp only [bracketed, List.cons_append, List.append_assoc, List.nil_append]
  rw [withoutBlanks, hopening.1, if_neg Bool.false_ne_true, if_neg hopening.2, withoutBlanks_lines h,
    withoutBlanks_blanks hfoot, withoutBlanks, hclosing.1, if_neg Bool.false_ne_true,
    if_neg hclosing.2, hcompact, List.nil_append]

end Items

/-! ## Values -/

/-- **The compact layout remains** of a written value without its blanks. -/
theorem withoutBlanks_writeAt {v : Value} (hv : v.IsExact) {depth : Nat} (cs : List Char) :
    withoutBlanks .outside (v.writeAt layout depth ++ cs) =
      v.writeAt .compact depth ++ withoutBlanks .outside cs := by
  induction hv generalizing depth cs with
  | null =>
      simp only [writeAt_null]
      exact withoutBlanks_plain (by simp [isBlank]) cs
  | bool b =>
      simp only [writeAt_bool]
      exact withoutBlanks_plain (by cases b <;> simp [isBlank]) cs
  | @integer n word =>
      simp only [writeAt_number]
      exact withoutBlanks_writeInteger n cs
  | string text =>
      simp only [writeAt_string]
      exact withoutBlanks_writeString text cs
  | @array vs elements ih =>
      rw [writeAt_array, writeAt_array]
      exact withoutBlanks_bracketed (fun v hv cs => ih v hv cs) (by decide) (by decide) cs
  | @object ms nodup members ih =>
      have hmember : ∀ m ∈ ms, ∀ cs, withoutBlanks .outside (memberText layout (depth + 1) m ++ cs) =
          memberText .compact (depth + 1) m ++ withoutBlanks .outside cs := by
        intro m hm cs
        have hgap : ∀ c ∈ layout.gap, isBlank c = true := fun c => isBlank_of_mem_gap
        have hcolon : isBlank ':' = false := rfl
        simp only [memberText, List.append_assoc, List.cons_append]
        rw [withoutBlanks_writeString, withoutBlanks, hcolon, if_neg Bool.false_ne_true,
          if_neg (by decide), withoutBlanks_blanks hgap, ih m hm]
        rfl
      rw [writeAt_object, writeAt_object]
      exact withoutBlanks_bracketed hmember (by decide) (by decide) cs

/-- A document in any layout, without its blanks, is the compact text of its value. -/
theorem withoutBlanks_document {v : Value} (hv : v.IsExact) :
    withoutBlanks .outside (v.document layout).toList = v.write .compact := by
  rw [Value.document, String.toList_ofList, ← writeAt_zero, withoutBlanks_writeAt hv, writeAt_zero]
  exact List.append_nil _

end QueryGraph.Json
