import QueryGraph.Proofs.Json.Lines

/-!
# `Proofs.Json.Controls` — a written value on its lines

A string may hold any characters, control characters among them; its literal holds none, since each of
them is written by an escape. So in a written value no control characters are left but the line feeds of
the layout, and on one line there are none at all.

## Contents
- `IsControl`, `Layout.Admits` — control characters, and the characters that a layout has room for.
- `not_isControl_of_mem_writeString`, `not_isControl_of_mem_writeNumber` — the literals of strings and numbers.
- `admits_of_mem_lines`, `admits_of_mem_bracketed` — items in brackets.
- `Value.nested_induction` — induction from the elements and members of a value to the value.
- `admits_of_mem_writeAt` — whole values.
- `eq_newline_of_mem_document`, `not_isControl_of_mem_compact` — documents.
-/

namespace QueryGraph.Json

/-! ## Control characters -/

/-- A control character: it comes before the space. -/
def IsControl (c : Char) : Prop := c.toNat < 0x20

instance (c : Char) : Decidable (IsControl c) := inferInstanceAs (Decidable (c.toNat < 0x20))

/-- A layout has room for a character: it is no control character, or the line feed of a layout with
line breaks. -/
def Layout.Admits (layout : Layout) (c : Char) : Prop := IsControl c → layout = .pretty ∧ c = '\n'

variable {layout : Layout} {depth : Nat}

theorem Layout.admits_of_not_isControl {c : Char} (h : ¬ IsControl c) : layout.Admits c :=
  fun hcontrol => absurd hcontrol h

theorem Layout.admits_compact_iff {c : Char} : Layout.compact.Admits c ↔ ¬ IsControl c := by
  constructor
  · intro h hcontrol
    obtain ⟨hlayout, -⟩ := h hcontrol
    exact absurd hlayout (by decide)
  · exact admits_of_not_isControl

theorem Layout.admits_of_mem_line {c : Char} (h : c ∈ layout.line depth) : layout.Admits c := by
  cases layout with
  | compact => simp [Layout.line] at h
  | pretty =>
      rcases List.mem_cons.mp h with rfl | hspace
      · exact fun _ => ⟨rfl, rfl⟩
      · apply admits_of_not_isControl
        rw [List.eq_of_mem_replicate hspace]
        decide

theorem Layout.admits_of_mem_gap {c : Char} (h : c ∈ layout.gap) : layout.Admits c := by
  apply admits_of_not_isControl
  cases layout with
  | compact => simp [Layout.gap] at h
  | pretty =>
      obtain rfl := List.mem_singleton.mp h
      decide

/-! ## Strings -/

/-- The letter of an escape is a visible character. -/
theorem not_isControl_of_escapedBy? {letter c : Char} (h : escapedBy? letter = some c) :
    ¬ IsControl letter := by
  unfold escapedBy? at h
  split at h
  case h_9 => simp at h
  all_goals decide

theorem not_isControl_hexDigit : ∀ n < 16, ¬ IsControl (Text.hexDigit n) := by decide +kernel

/-- A character is written without control characters, whatever it is. -/
theorem not_isControl_of_mem_escape {c d : Char} (h : d ∈ escape c) : ¬ IsControl d := by
  rcases escape_cases c with ⟨letter, -, hletter, hwritten⟩ | ⟨hcontrol, hwritten⟩ |
    ⟨-, -, hplain, hwritten⟩
  · rw [hwritten] at h
    simp only [List.mem_cons, List.not_mem_nil, or_false] at h
    rcases h with rfl | rfl
    · decide
    · exact not_isControl_of_escapedBy? hletter
  · rw [hwritten] at h
    simp only [List.mem_cons, List.not_mem_nil, or_false] at h
    rcases h with rfl | rfl | rfl | rfl | rfl | rfl
    · decide
    · decide
    · decide
    · decide
    · exact not_isControl_hexDigit _ (by omega)
    · exact not_isControl_hexDigit _ (by omega)
  · rw [hwritten] at h
    obtain rfl := List.mem_singleton.mp h
    exact hplain

/-- **A string literal holds no control characters**, whatever its string holds. -/
theorem not_isControl_of_mem_writeString {text : String} {c : Char} (h : c ∈ writeString text) :
    ¬ IsControl c := by
  simp only [writeString, List.mem_cons, List.mem_append, List.mem_flatMap, List.not_mem_nil,
    or_false] at h
  rcases h with rfl | ⟨d, -, hc⟩ | rfl
  · decide
  · exact not_isControl_of_mem_escape hc
  · decide

/-! ## Numbers -/

/-- A character that numbers are written with. -/
def InNumber (c : Char) : Prop := c.isDigit = true ∨ c ∈ ['-', '+', '.', 'e']

theorem not_isControl_of_inNumber {c : Char} (h : InNumber c) : ¬ IsControl c := by
  rcases h with hdigit | hmark
  · simp only [Char.isDigit, Bool.and_eq_true, decide_eq_true_eq] at hdigit
    have hle : (48 : UInt32).toNat ≤ c.toNat := UInt32.le_iff_toNat_le.mp hdigit.1
    have hzero : (48 : UInt32).toNat = 48 := rfl
    show ¬ c.toNat < 0x20
    omega
  · have hmarks : ∀ mark ∈ ['-', '+', '.', 'e'], ¬ IsControl mark := by simp [IsControl]
    exact hmarks c hmark

theorem inNumber_of_mem_toDigits {n : Nat} {c : Char} (h : c ∈ Nat.toDigits 10 n) : InNumber c :=
  Or.inl (isDigit_of_mem_toDigits h)

theorem inNumber_of_mem_writeInteger {n : Int} {c : Char} (h : c ∈ Number.writeInteger n) :
    InNumber c := by
  rcases minus_or_isDigit_of_mem_writeInteger h with rfl | hdigit
  · exact Or.inr (by decide)
  · exact Or.inl hdigit

/-- Plain notation adds zeros and a point to the digits. -/
theorem inNumber_of_mem_plain {digits : List Char} (hdigits : ∀ c ∈ digits, InNumber c) {power : Int}
    {c : Char} (h : c ∈ Decimal.plain digits power) : InNumber c := by
  have hzero : InNumber '0' := Or.inl (by decide)
  have hpoint : InNumber '.' := Or.inr (by decide)
  have hzeros : ∀ n, ∀ c ∈ List.replicate n '0', InNumber c := by
    intro n c hc
    rw [List.eq_of_mem_replicate hc]
    exact hzero
  have hpadded : ∀ n, ∀ c ∈ digits ++ List.replicate n '0', InNumber c := by
    intro n c hc
    exact (List.mem_append.mp hc).elim (hdigits c) (hzeros n c)
  rw [Decimal.plain] at h
  split at h
  · simp only [List.mem_cons, List.mem_append] at h
    rcases h with rfl | rfl | hc | hc
    · exact hzero
    · exact hpoint
    · exact hzeros _ c hc
    · exact hdigits c hc
  · rcases List.mem_append.mp h with hwhole | hrest
    · exact hpadded _ c (List.mem_of_mem_take hwhole)
    · rcases List.mem_cons.mp hrest with rfl | hfraction
      · exact hpoint
      · split at hfraction
        · obtain rfl := List.mem_singleton.mp hfraction
          exact hzero
        · exact hpadded _ c (List.mem_of_mem_drop hfraction)

/-- Notation with an exponent adds a point, a letter and a sign to the digits. -/
theorem inNumber_of_mem_scientific {digits : List Char} (hdigits : ∀ c ∈ digits, InNumber c)
    {power : Int} {c : Char} (h : c ∈ Decimal.scientific digits power) : InNumber c := by
  rw [Decimal.scientific, List.append_assoc, List.mem_append, List.mem_append] at h
  rcases h with hfirst | hfraction | hexponent
  · exact hdigits c (List.mem_of_mem_take hfirst)
  · split at hfraction
    · simp at hfraction
    · rcases List.mem_cons.mp hfraction with rfl | hc
      · exact Or.inr (by decide)
      · exact hdigits c (List.mem_of_mem_drop hc)
  · simp only [List.mem_cons] at hexponent
    rcases hexponent with rfl | hsign | hc
    · exact Or.inr (by decide)
    · rw [hsign]
      split <;> exact Or.inr (by decide)
    · exact inNumber_of_mem_toDigits hc

theorem inNumber_of_mem_writeDecimal {style : DecimalStyle} {d : Decimal} {c : Char}
    (h : c ∈ d.write style) : InNumber c := by
  rw [Decimal.write] at h
  split at h
  · exact inNumber_of_mem_plain (fun _ => inNumber_of_mem_toDigits) h
  · exact inNumber_of_mem_scientific (fun _ => inNumber_of_mem_toDigits) h

theorem inNumber_of_mem_writeDouble {style : DecimalStyle} {x : Binary64} {c : Char}
    (h : c ∈ x.write style) : InNumber c := by
  have hmagnitude : ∀ c ∈ (if x.significand = 0 then ['0', '.', '0'] else x.shortest.write style),
      InNumber c := by
    intro c hc
    split at hc
    · simp only [List.mem_cons, List.not_mem_nil, or_false] at hc
      rcases hc with rfl | rfl | rfl
      · exact Or.inl (by decide)
      · exact Or.inr (by decide)
      · exact Or.inl (by decide)
    · exact inNumber_of_mem_writeDecimal hc
  rw [Binary64.write] at h
  split at h
  · rcases List.mem_cons.mp h with rfl | hc
    · exact Or.inr (by decide)
    · exact hmagnitude c hc
  · exact hmagnitude c h

/-- **A number is written without control characters.** -/
theorem not_isControl_of_mem_writeNumber {n : Number} {c : Char} (h : c ∈ n.write) : ¬ IsControl c := by
  apply not_isControl_of_inNumber
  cases n with
  | integer value => exact inNumber_of_mem_writeInteger h
  | double value => exact inNumber_of_mem_writeDouble h

/-! ## Items -/

theorem admits_of_mem_lines {items : List (List Char)}
    (hitems : ∀ item ∈ items, ∀ c ∈ item, layout.Admits c) (first : Bool) {c : Char}
    (h : c ∈ lines layout depth first items) : layout.Admits c := by
  induction items generalizing first with
  | nil => simp [lines] at h
  | cons item items ih =>
      have hitem : c ∈ layout.line depth ++ (item ++ lines layout depth false items) →
          layout.Admits c := by
        intro hc
        rcases List.mem_append.mp hc with hline | hc
        · exact Layout.admits_of_mem_line hline
        · rcases List.mem_append.mp hc with hc | hrest
          · exact hitems item List.mem_cons_self c hc
          · exact ih (fun other hother => hitems other (List.mem_cons_of_mem item hother)) false hrest
      cases first with
      | true => exact hitem h
      | false =>
          rcases List.mem_cons.mp h with rfl | hc
          · exact Layout.admits_of_not_isControl (by decide)
          · exact hitem hc

/-- Brackets around items hold what the items hold, and the line breaks of the layout. -/
theorem admits_of_mem_bracketed {items : List (List Char)}
    (hitems : ∀ item ∈ items, ∀ c ∈ item, layout.Admits c) {opening closing : Char}
    (hopening : ¬ IsControl opening) (hclosing : ¬ IsControl closing) {c : Char}
    (h : c ∈ bracketed layout depth opening closing items) : layout.Admits c := by
  simp only [bracketed, List.mem_cons, List.mem_append, List.not_mem_nil, or_false] at h
  rcases h with rfl | hlines | hfoot | rfl
  · exact Layout.admits_of_not_isControl hopening
  · exact admits_of_mem_lines hitems true hlines
  · rw [foot] at hfoot
    split at hfoot
    · simp at hfoot
    · exact Layout.admits_of_mem_line hfoot
  · exact Layout.admits_of_not_isControl hclosing

/-! ## Values -/

/-- **Induction on the nesting.** What holds of scalars, and of an array or an object as soon as it holds
of all values inside, holds of every value. -/
theorem Value.nested_induction {motive : Value → Prop} (null : motive .null)
    (bool : ∀ b, motive (.bool b)) (number : ∀ n, motive (.number n))
    (string : ∀ text, motive (.string text))
    (array : ∀ vs, (∀ v ∈ vs, motive v) → motive (.array vs))
    (object : ∀ ms, (∀ m ∈ ms, motive m.2) → motive (.object ms)) (v : Value) : motive v :=
  match v with
  | .null => null
  | .bool b => bool b
  | .number n => number n
  | .string text => string text
  | .array vs => array vs fun w hw =>
      have := List.sizeOf_lt_of_mem hw
      nested_induction null bool number string array object w
  | .object ms => object ms fun m hm =>
      have := List.sizeOf_lt_of_mem hm
      nested_induction null bool number string array object m.2
termination_by sizeOf v
decreasing_by
  · simp only [Value.array.sizeOf_spec]
    omega
  · obtain ⟨name, w⟩ := m
    simp only [Value.object.sizeOf_spec, Prod.mk.sizeOf_spec] at *
    omega

/-- **A written value keeps to its lines**: of control characters, it holds the line feeds of the layout
and no others. -/
theorem admits_of_mem_writeAt {v : Value} {depth : Nat} {c : Char} (h : c ∈ v.writeAt layout depth) :
    layout.Admits c := by
  induction v using Value.nested_induction generalizing depth c with
  | null =>
      rw [writeAt_null] at h
      have hletters : ∀ c ∈ ['n', 'u', 'l', 'l'], ¬ IsControl c := by simp [IsControl]
      exact Layout.admits_of_not_isControl (hletters c h)
  | bool b =>
      rw [writeAt_bool] at h
      have hletters : ∀ c ∈ (if b then ['t', 'r', 'u', 'e'] else ['f', 'a', 'l', 's', 'e']),
          ¬ IsControl c := by cases b <;> simp [IsControl]
      exact Layout.admits_of_not_isControl (hletters c h)
  | number n =>
      rw [writeAt_number] at h
      exact Layout.admits_of_not_isControl (not_isControl_of_mem_writeNumber h)
  | string text =>
      rw [writeAt_string] at h
      exact Layout.admits_of_not_isControl (not_isControl_of_mem_writeString h)
  | array vs ih =>
      rw [writeAt_array] at h
      refine admits_of_mem_bracketed (List.forall_mem_map.mpr ?_) (by decide) (by decide) h
      intro v hv c hc
      exact ih v hv hc
  | object ms ih =>
      rw [writeAt_object] at h
      refine admits_of_mem_bracketed (List.forall_mem_map.mpr ?_) (by decide) (by decide) h
      intro m hm c hc
      simp only [memberText, List.mem_append, List.mem_cons] at hc
      rcases hc with hname | rfl | hgap | hvalue
      · exact Layout.admits_of_not_isControl (not_isControl_of_mem_writeString hname)
      · exact Layout.admits_of_not_isControl (by decide)
      · exact Layout.admits_of_mem_gap hgap
      · exact ih m hm hvalue

/-! ## Documents -/

/-- **The control characters of a document are line feeds**, in either layout. -/
theorem eq_newline_of_mem_document {v : Value} {c : Char} (h : c ∈ (v.document layout).toList)
    (hcontrol : IsControl c) : c = '\n' := by
  rw [Value.document, String.toList_ofList, ← writeAt_zero, List.mem_append] at h
  rcases h with hwritten | hend
  · exact (admits_of_mem_writeAt hwritten hcontrol).2
  · exact List.mem_singleton.mp hend

/-- **A compact value stays on its line**: it holds no control characters at all. -/
theorem not_isControl_of_mem_compact {v : Value} {c : Char} (h : c ∈ v.write .compact) :
    ¬ IsControl c := by
  rw [← writeAt_zero] at h
  exact Layout.admits_compact_iff.mp (admits_of_mem_writeAt h)

example : (Value.object [("a\n", .string "\x1f\"")]).write .compact =
    "\x7b\"a\\n\":\"\\u001f\\\"\"\x7d".toList := by decide

end QueryGraph.Json
