import Mathlib.Algebra.GroupWithZero.Nat
import QueryGraph.Json.Skip
import QueryGraph.Proofs.Json.RoundTrip

/-!
# `Proofs.Json.Skip` — passing over what was written

The skipper keeps no value, only the brackets that are open. Its run over a written value is the run
over what follows the value (`Skips`), whatever brackets are open around it: so stated, the runs over
the parts of an array or object put together to the run over the whole.

## Contents
- `skipRest` — the run from the end of a value on.
- `Value.tokens` — how many rounds a value takes.
- `skipRest_lines` — the run over the items of an array or object.
- `skips_of_isExact`, `skipValue_writeAt` — every written value is passed over.
-/

namespace QueryGraph.Json

variable {layout : Layout} {depth : Nat}

/-! ## Rounds -/

/-- Passes over everything from the end of a value, or from an opening bracket if `comma` is not
allowed yet, up to the end of the outermost bracket. -/
def skipRest (comma : Bool) (fuel : Nat) (stack : List Bracket) (cs : List Char) :
    Except Fault (List Char) := do
  match ← toNextValue comma stack cs with
  | ([], rest) => return rest
  | (stack, rest) => skipInside fuel stack rest

theorem skipInside_succ (fuel : Nat) (stack : List Bracket) (cs : List Char) :
    skipInside (fuel + 1) stack cs =
      (do let ((comma, stack), rest) ← skipToken stack cs
          skipRest comma fuel stack rest) := rfl

mutual

/-- How many scalars and opening brackets a value has. -/
def Value.tokens : Value → Nat
  | .null | .bool _ | .number _ | .string _ => 1
  | .array vs => elementsTokens vs + 1
  | .object ms => membersTokens ms + 1

/-- How many scalars and opening brackets some elements have. -/
def elementsTokens : List Value → Nat
  | [] => 0
  | v :: vs => v.tokens + elementsTokens vs

/-- How many scalars and opening brackets some members have. -/
def membersTokens : List (String × Value) → Nat
  | [] => 0
  | (_, v) :: ms => v.tokens + membersTokens ms

end

theorem elementsTokens_eq (vs : List Value) : elementsTokens vs = (vs.map Value.tokens).sum := by
  induction vs with
  | nil => rfl
  | cons v vs ih => rw [elementsTokens, ih, List.map_cons, List.sum_cons]

theorem membersTokens_eq (ms : List (String × Value)) :
    membersTokens ms = (ms.map fun m => m.2.tokens).sum := by
  induction ms with
  | nil => rfl
  | cons m ms ih => rw [membersTokens, ih, List.map_cons, List.sum_cons]

/-! ## Scalars -/

/-- Blanks before a token do not matter. -/
theorem skipToken_append {bs : List Char} (hbs : ∀ c ∈ bs, isBlank c = true) (stack : List Bracket)
    (cs : List Char) : skipToken stack (bs ++ cs) = skipToken stack cs := by
  unfold skipToken
  rw [skipBlanks_append hbs]

theorem skipToken_number {c : Char} (h : c = '-' ∨ c.isDigit = true) (stack : List Bracket)
    (cs : List Char) :
    skipToken stack (c :: cs) = (skipNumber (c :: cs)).map fun rest => ((true, stack), rest) := by
  unfold skipToken
  rw [skipBlanks_cons (isBlank_of_startsNumber h)]
  rcases h with rfl | h
  · simp
  · split <;> simp_all

theorem skipToken_writeInteger (n : Int) (stack : List Bracket) {rest : List Char}
    (hrest : EndsNumber rest) :
    skipToken stack (Number.writeInteger n ++ rest) = .ok ((true, stack), rest) := by
  have hskip := skipNumber_writeInteger n hrest
  obtain ⟨c, cs, hwritten, hc⟩ := writeInteger_eq_cons n
  rw [hwritten, List.cons_append] at hskip ⊢
  rw [skipToken_number hc, hskip]
  rfl

theorem skipToken_bool (b : Bool) (stack : List Bracket) (rest : List Char) :
    skipToken stack ((Value.bool b).writeAt layout depth ++ rest) = .ok ((true, stack), rest) := by
  rw [writeAt_bool]
  cases b with
  | true => exact word_append _ ['r', 'u', 'e'] rest
  | false => exact word_append _ ['a', 'l', 's', 'e'] rest

theorem skipToken_writeString (text : String) (stack : List Bracket) (rest : List Char) :
    skipToken stack (writeString text ++ rest) = .ok ((true, stack), rest) := by
  unfold skipToken
  rw [writeString, List.cons_append, skipBlanks_cons (by decide), List.append_assoc]
  simp [skipString_escaped, Except.map]

/-! ## Items -/

/-- A written value is passed over, whatever brackets are open around it: its run is the run over what
follows it. -/
def Skips (layout : Layout) (depth : Nat) (v : Value) : Prop :=
  ∀ fuel stack bs rest, (∀ c ∈ bs, isBlank c = true) → EndsNumber rest →
    skipInside (v.tokens + fuel) stack (bs ++ (v.writeAt layout depth ++ rest)) =
      skipRest true fuel stack rest

/-- A scalar takes one round. -/
theorem skips_of_token {v : Value} (htokens : v.tokens = 1)
    (h : ∀ stack rest, EndsNumber rest →
      skipToken stack (v.writeAt layout depth ++ rest) = .ok ((true, stack), rest)) :
    Skips layout depth v := by
  intro fuel stack bs rest hbs hrest
  rw [htokens, Nat.add_comm, skipInside_succ, skipToken_append hbs, h stack rest hrest]
  rfl

section Items

variable {bracket : Bracket} {α : Type} {text : α → List Char} {value : α → Value}

/-- How the items of an array or object look: each starts like one, and has its value at the end. -/
structure AreItems (layout : Layout) (depth : Nat) (bracket : Bracket) (text : α → List Char)
    (value : α → Value) (items : List α) : Prop where
  /-- An item does not start like the end. -/
  starts : ∀ x ∈ items, ∃ c cs, text x = c :: cs ∧ isBlank c = false ∧ c ≠ bracket.closer
  /-- What comes before the value of an item is passed over. -/
  before : ∀ x ∈ items, ∀ bs, (∀ c ∈ bs, isBlank c = true) → ∀ rest,
    ∃ gap, (∀ c ∈ gap, isBlank c = true) ∧ bracket.beforeValue (bs ++ (text x ++ rest)) =
      .ok (gap ++ ((value x).writeAt layout depth ++ rest))
  /-- The value is passed over. -/
  skips : ∀ x ∈ items, Skips layout depth (value x)

theorem toNextValue_item {x : α} {items : List α}
    (h : AreItems layout depth bracket text value (x :: items)) (first : Bool) (stack : List Bracket)
    (rest : List Char) :
    ∃ gap, (∀ c ∈ gap, isBlank c = true) ∧
      toNextValue (!first) (bracket :: stack)
        (lines layout depth first ((x :: items).map text) ++ rest) =
        .ok (bracket :: stack, gap ++ ((value x).writeAt layout depth ++
          (lines layout depth false (items.map text) ++ rest))) := by
  have hline : ∀ c ∈ layout.line depth, isBlank c = true := fun c => isBlank_of_mem_line
  obtain ⟨c, cs, htext, hblank, hc⟩ := h.starts x List.mem_cons_self
  cases first with
  | true =>
      obtain ⟨gap, hgap, hbefore⟩ := h.before x List.mem_cons_self [] (by simp)
        (lines layout depth false (items.map text) ++ rest)
      refine ⟨gap, hgap, ?_⟩
      simp only [List.map_cons, lines, List.append_assoc]
      rw [List.nil_append, htext, List.cons_append] at hbefore
      rw [toNextValue, htext, List.cons_append, skipBlanks_append hline, skipBlanks_cons hblank]
      simp [hc, hbefore, Except.map]
  | false =>
      obtain ⟨gap, hgap, hbefore⟩ := h.before x List.mem_cons_self _ hline
        (lines layout depth false (items.map text) ++ rest)
      have hcomma : ',' ≠ bracket.closer := by cases bracket <;> decide
      refine ⟨gap, hgap, ?_⟩
      simp only [List.map_cons, lines, List.append_assoc, List.cons_append]
      rw [toNextValue, skipBlanks_cons (by decide)]
      simp [hcomma, hbefore, Except.map]

theorem skipRest_close {bs : List Char} (hbs : ∀ c ∈ bs, isBlank c = true) (comma : Bool) (fuel : Nat)
    (stack : List Bracket) (rest : List Char) :
    skipRest comma fuel (bracket :: stack) (bs ++ bracket.closer :: rest) =
      skipRest true fuel stack rest := by
  have hcloser : isBlank bracket.closer = false := by cases bracket <;> decide
  simp only [skipRest]
  rw [toNextValue, skipBlanks_append hbs, skipBlanks_cons hcloser]
  simp

/-- **The items of an array or object are passed over**, and the closing bracket with them. -/
theorem skipRest_lines {items : List α} (h : AreItems layout depth bracket text value items)
    {bs : List Char} (hbs : ∀ c ∈ bs, isBlank c = true) (first : Bool) (fuel : Nat)
    (stack : List Bracket) (rest : List Char) :
    skipRest (!first) ((items.map fun x => (value x).tokens).sum + fuel) (bracket :: stack)
      (lines layout depth first (items.map text) ++ (bs ++ bracket.closer :: rest)) =
      skipRest true fuel stack rest := by
  induction items generalizing first with
  | nil => simpa [lines] using skipRest_close hbs (!first) fuel stack rest
  | cons x items ih =>
      have hitems : AreItems layout depth bracket text value items :=
        ⟨fun y hy => h.starts y (List.mem_cons_of_mem x hy),
          fun y hy => h.before y (List.mem_cons_of_mem x hy),
          fun y hy => h.skips y (List.mem_cons_of_mem x hy)⟩
      have hends : EndsNumber
          (lines layout depth false (items.map text) ++ (bs ++ bracket.closer :: rest)) :=
        endsNumber_lines hbs (endsNumber_cons (by cases bracket <;> decide) _) _
      obtain ⟨gap, hgap, hnext⟩ := toNextValue_item h first stack (bs ++ bracket.closer :: rest)
      have hskip := h.skips x List.mem_cons_self
        ((items.map fun x => (value x).tokens).sum + fuel) (bracket :: stack) gap _ hgap hends
      -- The run over the first value leaves the run over the other items, with their rounds to go.
      rw [List.map_cons, List.sum_cons, Nat.add_assoc]
      simp only [skipRest, hnext, bind, Except.bind]
      rw [hskip]
      exact ih hitems false

/-- Items in brackets are passed over. -/
theorem skips_of_areItems {items : List α} (h : AreItems layout (depth + 1) bracket text value items)
    {opening : Char} (hopening : ∀ stack rest,
      skipToken stack (opening :: rest) = .ok ((false, bracket :: stack), rest))
    {v : Value} (htokens : v.tokens = (items.map fun x => (value x).tokens).sum + 1)
    (hwritten : v.writeAt layout depth =
      bracketed layout depth opening bracket.closer (items.map text)) : Skips layout depth v := by
  intro fuel stack bs rest hbs _
  have hfoot : ∀ c ∈ foot layout depth (items.map text), isBlank c = true :=
    fun c => isBlank_of_mem_foot
  rw [htokens, hwritten, Nat.add_right_comm, skipInside_succ, skipToken_append hbs, bracketed,
    List.cons_append, hopening]
  simp only [List.append_assoc, List.singleton_append]
  exact skipRest_lines h hfoot true fuel stack rest

end Items

/-! ## Values -/

theorem areItems_elements {vs : List Value} (hvs : ∀ v ∈ vs, v.IsExact)
    (hskips : ∀ v ∈ vs, Skips layout depth v) :
    AreItems layout depth .array (Value.writeAt layout depth) id vs where
  starts v hv := starts_writeAt (hvs v hv)
  before _ _ bs hbs _ := ⟨bs, hbs, rfl⟩
  skips := hskips

theorem areItems_members {ms : List (String × Value)} (hskips : ∀ m ∈ ms, Skips layout depth m.2) :
    AreItems layout depth .object (memberText layout depth) Prod.snd ms where
  starts m hm := ⟨'"', _, rfl, rfl, by decide⟩
  before m hm bs hbs rest := by
    refine ⟨layout.gap, fun c => isBlank_of_mem_gap, ?_⟩
    rw [Bracket.beforeValue, skipBlanks_append_of_starts hbs (starts_memberText m)]
    simp [memberText, writeString, skipString_escaped, colon_cons, bind, Except.bind]
  skips := hskips

/-- **Every written value is passed over.** -/
theorem skips_of_isExact {v : Value} (hv : v.IsExact) {depth : Nat} : Skips layout depth v := by
  induction hv generalizing depth with
  | null =>
      refine skips_of_token (by rw [Value.tokens]) fun stack rest _ => ?_
      rw [writeAt_null]
      exact word_append _ ['u', 'l', 'l'] rest
  | bool b => exact skips_of_token (by rw [Value.tokens]) fun stack rest _ => skipToken_bool b stack rest
  | @integer n word =>
      refine skips_of_token (by rw [Value.tokens]) fun stack rest hrest => ?_
      rw [writeAt_number]
      exact skipToken_writeInteger n stack hrest
  | string text =>
      refine skips_of_token (by rw [Value.tokens]) fun stack rest _ => ?_
      rw [writeAt_string]
      exact skipToken_writeString text stack rest
  | @array vs elements ih =>
      refine skips_of_areItems (areItems_elements elements fun v hv => ih v hv) (fun _ _ => rfl) ?_
        (writeAt_array vs)
      rw [Value.tokens, elementsTokens_eq]
      rfl
  | @object ms nodup members ih =>
      refine skips_of_areItems (areItems_members fun m hm => ih m hm) (fun _ _ => rfl) ?_
        (writeAt_object ms)
      rw [Value.tokens, membersTokens_eq]

/-! ## Fuel -/

theorem sum_map_le_length_lines {α : Type} {text : α → List Char} {n : α → Nat} {items : List α}
    (h : ∀ x ∈ items, n x ≤ (text x).length) (first : Bool) :
    (items.map n).sum ≤ (lines layout depth first (items.map text)).length := by
  induction items generalizing first with
  | nil => exact Nat.zero_le _
  | cons x items ih =>
      have hx := h x List.mem_cons_self
      have hitems := ih (fun y hy => h y (List.mem_cons_of_mem x hy)) false
      cases first <;>
        simp only [List.map_cons, List.sum_cons, lines, List.length_cons, List.length_append] <;> omega

theorem length_writeAt_pos {v : Value} (hv : v.IsExact) : 0 < (v.writeAt layout depth).length := by
  obtain ⟨c, cs, hwritten, -⟩ : Starts (v.writeAt layout depth) := starts_writeAt hv
  rw [hwritten]
  exact Nat.succ_pos _

/-- A value takes no more rounds than it has characters. -/
theorem tokens_le_length {v : Value} (hv : v.IsExact) {depth : Nat} :
    v.tokens ≤ (v.writeAt layout depth).length := by
  induction hv generalizing depth with
  | null =>
      rw [Value.tokens]
      exact length_writeAt_pos .null
  | bool b =>
      rw [Value.tokens]
      exact length_writeAt_pos (.bool b)
  | integer word =>
      rw [Value.tokens]
      exact length_writeAt_pos (.integer word)
  | string text =>
      rw [Value.tokens]
      exact length_writeAt_pos (.string text)
  | @array vs elements ih =>
      have hsum : (vs.map Value.tokens).sum ≤
          (lines layout (depth + 1) true (vs.map (Value.writeAt layout (depth + 1)))).length :=
        sum_map_le_length_lines (fun v hv => ih v hv) true
      rw [Value.tokens, elementsTokens_eq, writeAt_array, bracketed, List.length_cons, List.length_append]
      omega
  | @object ms nodup members ih =>
      have hmember : ∀ m ∈ ms, m.2.tokens ≤ (memberText layout (depth + 1) m).length := by
        intro m hm
        have hvalue : m.2.tokens ≤ (m.2.writeAt layout (depth + 1)).length := ih m hm
        simp only [memberText, List.length_append, List.length_cons]
        omega
      have hsum : (ms.map fun m => m.2.tokens).sum ≤
          (lines layout (depth + 1) true (ms.map (memberText layout (depth + 1)))).length :=
        sum_map_le_length_lines hmember true
      rw [Value.tokens, membersTokens_eq, writeAt_object, bracketed, List.length_cons, List.length_append]
      omega

/-- **A written value is passed over**, whatever follows it, and the rest of the text is left. -/
theorem skipValue_writeAt {v : Value} (hv : v.IsExact) {fuel : Nat}
    (hfuel : (v.writeAt layout depth).length < fuel) {bs : List Char}
    (hbs : ∀ c ∈ bs, isBlank c = true) {rest : List Char} (hrest : EndsNumber rest) :
    skipValue fuel (bs ++ (v.writeAt layout depth ++ rest)) = .ok rest := by
  have htokens := Nat.le_trans (tokens_le_length hv) (Nat.le_of_lt hfuel)
  obtain ⟨more, rfl⟩ := Nat.exists_eq_add_of_le htokens
  rw [skipValue, skips_of_isExact hv more [] bs rest hbs hrest]
  rfl

end QueryGraph.Json
