import QueryGraph.Json.Printer
import QueryGraph.Json.Word
import QueryGraph.Proofs.Json.Literals

/-!
# `Proofs.Json.Lines` — both layouts as one

The two layouts differ in what stands before an item, before a closing bracket and behind a colon:
nothing, or a line break and some spaces. Seen this way they are one: an array or an object is a pair
of brackets around the texts of its items (`writeAt_array`, `writeAt_object`), and whatever is to be
shown of written values needs these two equations only.

## Contents
- `Value.IsExact`, `Value.depth` — the values that their text stands for exactly, and their nesting;
  `exists_room_of_array`, `exists_room_of_object` — reading them in limited room.
- `lines`, `bracketed` — items with commas between them, and in brackets.
- `Value.writeAt` — a value in either layout; `writeAt_array`, `writeAt_object`.
- `Starts`, `starts_writeAt` — how a written value starts.
- `length_elements_lt`, `length_element_lt`, `length_members_lt`, `length_member_lt` — a written value
  has more characters than items, and than any one item.
-/

namespace QueryGraph.Json

/-! ## Values that can be written exactly -/

/-- A value that its text stands for exactly: its numbers are integers of 64 bits, and no object in it
names a member twice. -/
inductive Value.IsExact : Value → Prop
  | null : IsExact .null
  | bool (b : Bool) : IsExact (.bool b)
  | integer {n : Int} (word : IsWord n) : IsExact (.number (.integer n))
  | string (text : String) : IsExact (.string text)
  | array {vs : List Value} (elements : ∀ v ∈ vs, v.IsExact) : IsExact (.array vs)
  | object {ms : List (String × Value)} (nodup : (ms.map Prod.fst).Nodup)
    (members : ∀ m ∈ ms, m.2.IsExact) : IsExact (.object ms)

mutual

/-- How many brackets of a value stand inside one another at most. -/
def Value.depth : Value → Nat
  | .null | .bool _ | .number _ | .string _ => 0
  | .array vs => elementsDepth vs + 1
  | .object ms => membersDepth ms + 1

/-- The depth of the deepest of some elements. -/
def elementsDepth : List Value → Nat
  | [] => 0
  | v :: vs => max v.depth (elementsDepth vs)

/-- The depth of the deepest of some members. -/
def membersDepth : List (String × Value) → Nat
  | [] => 0
  | (_, v) :: ms => max v.depth (membersDepth ms)

end

theorem elementsDepth_le_iff {vs : List Value} {n : Nat} :
    elementsDepth vs ≤ n ↔ ∀ v ∈ vs, v.depth ≤ n := by
  induction vs with
  | nil => simp [elementsDepth]
  | cons v vs ih => simp only [elementsDepth, Nat.max_le, ih, List.forall_mem_cons]

theorem membersDepth_le_iff {ms : List (String × Value)} {n : Nat} :
    membersDepth ms ≤ n ↔ ∀ m ∈ ms, m.2.depth ≤ n := by
  induction ms with
  | nil => simp [membersDepth]
  | cons m ms ih =>
      obtain ⟨name, v⟩ := m
      simp only [membersDepth, Nat.max_le, ih, List.forall_mem_cons]

theorem depth_array_le_iff {vs : List Value} {n : Nat} :
    (Value.array vs).depth ≤ n + 1 ↔ ∀ v ∈ vs, v.depth ≤ n := by
  rw [Value.depth, Nat.add_le_add_iff_right, elementsDepth_le_iff]

theorem depth_object_le_iff {ms : List (String × Value)} {n : Nat} :
    (Value.object ms).depth ≤ n + 1 ↔ ∀ m ∈ ms, m.2.depth ≤ n := by
  rw [Value.depth, Nat.add_le_add_iff_right, membersDepth_le_iff]

/-- An array needs room for its own bracket, and its elements fit into what is left. -/
theorem exists_room_of_array {vs : List Value} {room : Nat} (h : (Value.array vs).depth ≤ room) :
    ∃ r, room = r + 1 ∧ ∀ v ∈ vs, v.depth ≤ r := by
  cases room with
  | zero => simp [Value.depth] at h
  | succ r => exact ⟨r, rfl, depth_array_le_iff.mp h⟩

/-- An object needs room for its own brace, and its members fit into what is left. -/
theorem exists_room_of_object {ms : List (String × Value)} {room : Nat}
    (h : (Value.object ms).depth ≤ room) : ∃ r, room = r + 1 ∧ ∀ m ∈ ms, m.2.depth ≤ r := by
  cases room with
  | zero => simp [Value.depth] at h
  | succ r => exact ⟨r, rfl, depth_object_le_iff.mp h⟩

/-! ## Items in brackets -/

/-- What stands before an item or a closing bracket. -/
def Layout.line : Layout → Nat → List Char
  | .compact, _ => []
  | .pretty, depth => newLine depth

/-- What stands behind a colon. -/
def Layout.gap : Layout → List Char
  | .compact => []
  | .pretty => [' ']

variable {layout : Layout} {depth : Nat}

theorem isBlank_of_mem_line {c : Char} (h : c ∈ layout.line depth) : isBlank c = true := by
  cases layout with
  | compact => simp [Layout.line] at h
  | pretty =>
      rcases List.mem_cons.mp h with rfl | hspace
      · rfl
      · rw [List.eq_of_mem_replicate hspace]
        rfl

theorem isBlank_of_mem_gap {c : Char} (h : c ∈ layout.gap) : isBlank c = true := by
  cases layout with
  | compact => simp [Layout.gap] at h
  | pretty =>
      obtain rfl := List.mem_singleton.mp h
      rfl

/-- Items with commas between them; a comma stands before the first one as well unless it is the first
of all. -/
def lines (layout : Layout) (depth : Nat) : (first : Bool) → List (List Char) → List Char
  | _, [] => []
  | true, item :: rest => layout.line depth ++ (item ++ lines layout depth false rest)
  | false, item :: rest => ',' :: (layout.line depth ++ (item ++ lines layout depth false rest))

/-- What stands before the bracket that closes some items. -/
def foot (layout : Layout) (depth : Nat) (items : List (List Char)) : List Char :=
  if items = [] then [] else layout.line depth

/-- Items between brackets. -/
def bracketed (layout : Layout) (depth : Nat) (opening closing : Char) (items : List (List Char)) :
    List Char :=
  opening :: (lines layout (depth + 1) true items ++ (foot layout depth items ++ [closing]))

theorem isBlank_of_mem_foot {items : List (List Char)} {c : Char}
    (h : c ∈ foot layout depth items) : isBlank c = true := by
  rw [foot] at h
  split at h
  · simp at h
  · exact isBlank_of_mem_line h

theorem getLast?_bracketed (opening closing : Char) (items : List (List Char)) :
    (bracketed layout depth opening closing items).getLast? = some closing := by
  rw [bracketed, ← List.append_assoc, ← List.cons_append, List.getLast?_concat]

/-! ## Written values -/

/-- A value in the given layout, inside `depth` brackets. -/
def Value.writeAt (layout : Layout) (depth : Nat) (v : Value) : List Char :=
  match layout with
  | .compact => v.compact
  | .pretty => v.prettyAt depth

/-- A member in the given layout: its name, a colon and its value. -/
def memberText (layout : Layout) (depth : Nat) (m : String × Value) : List Char :=
  writeString m.1 ++ ':' :: (layout.gap ++ m.2.writeAt layout depth)

theorem writeAt_zero (v : Value) : v.writeAt layout 0 = v.write layout := by
  cases layout <;> rfl

@[simp] theorem writeAt_null : Value.null.writeAt layout depth = ['n', 'u', 'l', 'l'] := by
  cases layout <;> simp [Value.writeAt, Value.compact, Value.prettyAt]

@[simp] theorem writeAt_bool (b : Bool) :
    (Value.bool b).writeAt layout depth =
      if b then ['t', 'r', 'u', 'e'] else ['f', 'a', 'l', 's', 'e'] := by
  cases layout <;> cases b <;> simp [Value.writeAt, Value.compact, Value.prettyAt]

@[simp] theorem writeAt_number (n : Number) : (Value.number n).writeAt layout depth = n.write := by
  cases layout <;> simp [Value.writeAt, Value.compact, Value.prettyAt]

@[simp] theorem writeAt_string (text : String) :
    (Value.string text).writeAt layout depth = writeString text := by
  cases layout <;> simp [Value.writeAt, Value.compact, Value.prettyAt]

theorem compactElements_cons (v : Value) (vs : List Value) :
    compactElements (v :: vs) =
      v.compact ++ lines .compact depth false (vs.map (Value.writeAt .compact depth)) := by
  induction vs generalizing v with
  | nil => simp [compactElements, lines]
  | cons w vs ih =>
      rw [compactElements, ih w]
      rfl

theorem compactMembers_cons (m : String × Value) (ms : List (String × Value)) :
    compactMembers (m :: ms) =
      memberText .compact depth m ++ lines .compact depth false (ms.map (memberText .compact depth)) := by
  induction ms generalizing m with
  | nil => simp [compactMembers, lines, memberText, Layout.gap, Value.writeAt]
  | cons n ms ih =>
      obtain ⟨name, v⟩ := m
      rw [compactMembers, ih n]
      simp [memberText, lines, Layout.gap, Layout.line, Value.writeAt]

theorem prettyElements_cons (v : Value) (vs : List Value) :
    prettyElements depth (v :: vs) =
      lines .pretty depth true ((v :: vs).map (Value.writeAt .pretty depth)) := by
  induction vs generalizing v with
  | nil => simp [prettyElements, lines, Layout.line, Value.writeAt]
  | cons w vs ih =>
      rw [prettyElements, ih w]
      rfl

theorem prettyMembers_cons (m : String × Value) (ms : List (String × Value)) :
    prettyMembers depth (m :: ms) =
      lines .pretty depth true ((m :: ms).map (memberText .pretty depth)) := by
  induction ms generalizing m with
  | nil => simp [prettyMembers, lines, memberText, Layout.gap, Layout.line, Value.writeAt]
  | cons n ms ih =>
      obtain ⟨name, v⟩ := m
      rw [prettyMembers, ih n]
      simp [memberText, lines, Layout.gap, Layout.line, Value.writeAt]

/-- **An array** is written as its elements in brackets. -/
theorem writeAt_array (vs : List Value) :
    (Value.array vs).writeAt layout depth =
      bracketed layout depth '[' ']' (vs.map (Value.writeAt layout (depth + 1))) := by
  cases vs with
  | nil =>
      cases layout <;>
        simp [Value.writeAt, Value.compact, Value.prettyAt, compactElements, bracketed, lines, foot]
  | cons v vs =>
      cases layout with
      | compact =>
          rw [Value.writeAt, Value.compact, @compactElements_cons (depth + 1)]
          simp [bracketed, lines, foot, Layout.line, Value.writeAt]
      | pretty =>
          rw [Value.writeAt, Value.prettyAt, prettyElements_cons]
          simp [bracketed, foot, Layout.line]

/-- **An object** is written as its members in braces. -/
theorem writeAt_object (ms : List (String × Value)) :
    (Value.object ms).writeAt layout depth =
      bracketed layout depth '\x7b' '\x7d' (ms.map (memberText layout (depth + 1))) := by
  cases ms with
  | nil =>
      cases layout <;>
        simp [Value.writeAt, Value.compact, Value.prettyAt, compactMembers, bracketed, lines, foot]
  | cons m ms =>
      cases layout with
      | compact =>
          rw [Value.writeAt, Value.compact, @compactMembers_cons (depth + 1)]
          simp [bracketed, lines, foot, Layout.line]
      | pretty =>
          rw [Value.writeAt, Value.prettyAt, prettyMembers_cons]
          simp [bracketed, foot, Layout.line]

/-- The same with nothing but blanks before the closing bracket. -/
theorem writeAt_array_eq (layout : Layout) (depth : Nat) (vs : List Value) :
    ∃ bs, (∀ c ∈ bs, isBlank c = true) ∧ (Value.array vs).writeAt layout depth =
      '[' :: (lines layout (depth + 1) true (vs.map (Value.writeAt layout (depth + 1))) ++
        (bs ++ [']'])) :=
  ⟨_, fun _ => isBlank_of_mem_foot, writeAt_array vs⟩

theorem writeAt_object_eq (layout : Layout) (depth : Nat) (ms : List (String × Value)) :
    ∃ bs, (∀ c ∈ bs, isBlank c = true) ∧ (Value.object ms).writeAt layout depth =
      '\x7b' :: (lines layout (depth + 1) true (ms.map (memberText layout (depth + 1))) ++
        (bs ++ ['\x7d'])) :=
  ⟨_, fun _ => isBlank_of_mem_foot, writeAt_object ms⟩

/-! ## How a written value starts -/

/-- A text that starts with something else than a blank and a closing bracket. -/
def Starts (text : List Char) : Prop := ∃ c cs, text = c :: cs ∧ isBlank c = false ∧ c ≠ ']'

theorem starts_writeInteger (n : Int) : Starts (Number.writeInteger n) := by
  obtain ⟨c, cs, hwritten, hc⟩ := writeInteger_eq_cons n
  refine ⟨c, cs, hwritten, isBlank_of_startsNumber hc, ?_⟩
  rintro rfl
  exact absurd hc (by decide)

theorem starts_writeAt {v : Value} (h : v.IsExact) : Starts (v.writeAt layout depth) := by
  cases h with
  | null => exact ⟨'n', _, writeAt_null, rfl, by decide⟩
  | bool b => cases b <;> exact ⟨_, _, writeAt_bool _, rfl, by decide⟩
  | integer word =>
      rw [writeAt_number]
      exact starts_writeInteger _
  | string text =>
      rw [writeAt_string]
      exact ⟨'"', _, rfl, rfl, by decide⟩
  | array elements => exact ⟨'[', _, writeAt_array _, rfl, by decide⟩
  | object nodup members => exact ⟨'\x7b', _, writeAt_object _, rfl, by decide⟩

theorem starts_memberText (m : String × Value) : Starts (memberText layout depth m) :=
  ⟨'"', _, rfl, rfl, by decide⟩

/-- Blanks before a text that starts with something else are skipped, and nothing more. -/
theorem skipBlanks_append_of_starts {bs text : List Char} (hbs : ∀ c ∈ bs, isBlank c = true)
    (h : Starts text) (rest : List Char) : skipBlanks (bs ++ (text ++ rest)) = text ++ rest := by
  obtain ⟨c, cs, rfl, hc, -⟩ := h
  rw [skipBlanks_append hbs, List.cons_append, skipBlanks_cons hc]

/-! ## How long the parts are -/

theorem length_le_lines {items : List (List Char)} (h : ∀ item ∈ items, Starts item) (first : Bool) :
    items.length ≤ (lines layout depth first items).length := by
  induction items generalizing first with
  | nil => exact Nat.zero_le _
  | cons item rest ih =>
      have hrest := ih (fun i hi => h i (List.mem_cons_of_mem _ hi)) false
      obtain ⟨c, cs, rfl, -⟩ := h item List.mem_cons_self
      cases first <;> simp only [lines, List.length_cons, List.length_append] <;> omega

theorem length_le_lines_of_mem {items : List (List Char)} {item : List Char} (h : item ∈ items)
    (first : Bool) : item.length ≤ (lines layout depth first items).length := by
  induction items generalizing first with
  | nil => simp at h
  | cons other rest ih =>
      rcases List.mem_cons.mp h with rfl | hrest
      · cases first <;> simp only [lines, List.length_cons, List.length_append] <;> omega
      · have hle := ih hrest false
        cases first <;> simp only [lines, List.length_cons, List.length_append] <;> omega

/-- There are fewer items than characters. -/
theorem length_lt_bracketed {items : List (List Char)} (h : ∀ item ∈ items, Starts item)
    (opening closing : Char) : items.length < (bracketed layout depth opening closing items).length := by
  have hle : items.length ≤ (lines layout (depth + 1) true items).length := length_le_lines h true
  simp only [bracketed, List.length_cons, List.length_append]
  omega

/-- An item is shorter than the whole. -/
theorem length_lt_bracketed_of_mem {items : List (List Char)} {item : List Char} (h : item ∈ items)
    (opening closing : Char) : item.length < (bracketed layout depth opening closing items).length := by
  have hle : item.length ≤ (lines layout (depth + 1) true items).length :=
    length_le_lines_of_mem h true
  simp only [bracketed, List.length_cons, List.length_append]
  omega

theorem length_elements_lt {vs : List Value} (h : ∀ v ∈ vs, v.IsExact) :
    vs.length < ((Value.array vs).writeAt layout depth).length := by
  rw [writeAt_array]
  simpa using length_lt_bracketed (List.forall_mem_map.mpr fun v hv => starts_writeAt (h v hv)) '[' ']'

theorem length_element_lt {vs : List Value} {v : Value} (h : v ∈ vs) :
    (v.writeAt layout (depth + 1)).length < ((Value.array vs).writeAt layout depth).length := by
  rw [writeAt_array]
  exact length_lt_bracketed_of_mem (List.mem_map.mpr ⟨v, h, rfl⟩) '[' ']'

theorem length_members_lt (ms : List (String × Value)) :
    ms.length < ((Value.object ms).writeAt layout depth).length := by
  rw [writeAt_object]
  simpa using length_lt_bracketed (List.forall_mem_map.mpr fun m _ => starts_memberText m) '\x7b' '\x7d'

theorem length_member_lt {ms : List (String × Value)} {m : String × Value} (h : m ∈ ms) :
    (m.2.writeAt layout (depth + 1)).length < ((Value.object ms).writeAt layout depth).length := by
  have hlength : (memberText layout (depth + 1) m).length <
      ((Value.object ms).writeAt layout depth).length := by
    rw [writeAt_object]
    exact length_lt_bracketed_of_mem (List.mem_map.mpr ⟨m, h, rfl⟩) '\x7b' '\x7d'
  simp only [memberText, List.length_append, List.length_cons] at hlength
  omega

end QueryGraph.Json
