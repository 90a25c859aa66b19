import QueryGraph.Json.Reader
import QueryGraph.Proofs.Json.Lines

/-!
# `Proofs.Json.RoundTrip` — decoding what was written

A written value is read back, in either layout and whatever follows it. The induction is on the value;
the two loops of the reader are run once and for all, for any step that takes the text of an item off
the front and any state that is known from the items done so far. The other readers of arrays and
objects reuse them.

## Contents
- `endsNumber_lines` — what stands behind an item ends a number.
- `nextElement_item`, `nextElement_close`, `nextName_item`, `nextName_close` — between items.
- `readElements_array`, `readMembers_object` — the loops.
- `readValue_writeAt` — a value at the front of a text.
- `readDocument_eq_ok`, `decode_write` — whole documents.
-/

namespace QueryGraph.Json

variable {layout : Layout} {depth : Nat}

/-! ## Between items -/

theorem endsNumber_cons {c : Char} (h : c.isDigit = false ∧ c ≠ '.' ∧ c ≠ 'e' ∧ c ≠ 'E')
    (rest : List Char) : EndsNumber (c :: rest) := by
  intro d hd
  obtain rfl := Option.some.inj hd
  exact h

theorem endsNumber_blank {c : Char} (h : isBlank c = true) (rest : List Char) :
    EndsNumber (c :: rest) := by
  refine endsNumber_cons ?_ rest
  simp only [isBlank, Bool.or_eq_true, decide_eq_true_eq] at h
  rcases h with ((rfl | rfl) | rfl) | rfl <;> decide

/-- Behind an item stands a comma, a blank or the closing bracket. -/
theorem endsNumber_lines {bs : List Char} (hbs : ∀ c ∈ bs, isBlank c = true) {closing : Char}
    {rest : List Char} (hclosing : EndsNumber (closing :: rest)) (items : List (List Char)) :
    EndsNumber (lines layout depth false items ++ (bs ++ closing :: rest)) := by
  cases items with
  | cons item items => exact endsNumber_cons (by decide) _
  | nil =>
      cases bs with
      | nil => exact hclosing
      | cons b bs => exact endsNumber_blank (hbs b List.mem_cons_self) _

theorem nextElement_item {item : List Char} (h : Starts item) (first : Bool)
    (items : List (List Char)) (rest : List Char) :
    nextElement first (lines layout depth first (item :: items) ++ rest) =
      .ok (true, item ++ (lines layout depth false items ++ rest)) := by
  have hskip : ∀ more, skipBlanks (layout.line depth ++ (item ++ more)) = item ++ more :=
    skipBlanks_append_of_starts (fun c => isBlank_of_mem_line) h
  obtain ⟨c, cs, rfl, hc, hclose⟩ := h
  cases first with
  | true =>
      simp only [lines, List.append_assoc]
      rw [nextElement, hskip]
      simp
  | false =>
      simp only [lines, List.append_assoc, List.cons_append]
      rw [nextElement, skipBlanks_cons (by decide)]
      simp only [List.cons_append] at hskip
      simp [hskip, hclose]

theorem nextElement_close {bs : List Char} (hbs : ∀ c ∈ bs, isBlank c = true) (first : Bool)
    (rest : List Char) : nextElement first (bs ++ ']' :: rest) = .ok (false, rest) := by
  rw [nextElement, skipBlanks_append hbs, skipBlanks_cons (by decide)]
  rfl

theorem memberName_escaped (name : String) (rest : List Char) :
    memberName (name.toList.flatMap escape ++ '"' :: rest) = .ok (some name, rest) := by
  rw [memberName, readString_escaped]
  rfl

theorem nextName_item (m : String × Value) (first : Bool) (items : List (List Char))
    (rest : List Char) :
    nextName first (lines layout depth first (memberText layout depth m :: items) ++ rest) =
      .ok (some m.1, ':' :: (layout.gap ++ (m.2.writeAt layout depth ++
        (lines layout depth false items ++ rest)))) := by
  have hskip : ∀ more, skipBlanks (layout.line depth ++ (memberText layout depth m ++ more)) =
      memberText layout depth m ++ more :=
    skipBlanks_append_of_starts (fun c => isBlank_of_mem_line) (starts_memberText m)
  have hname := memberName_escaped m.1 (':' :: (layout.gap ++ (m.2.writeAt layout depth ++
    (lines layout depth false items ++ rest))))
  simp only [memberText, writeString, List.append_assoc, List.cons_append, List.nil_append] at hskip
  cases first with
  | true =>
      simp only [lines, memberText, writeString, List.append_assoc, List.cons_append, List.nil_append]
      rw [nextName, hskip]
      simpa using hname
  | false =>
      simp only [lines, memberText, writeString, List.append_assoc, List.cons_append, List.nil_append]
      rw [nextName, skipBlanks_cons (by decide)]
      simpa [hskip] using hname

theorem nextName_close {bs : List Char} (hbs : ∀ c ∈ bs, isBlank c = true) (first : Bool)
    (rest : List Char) : nextName first (bs ++ '\x7d' :: rest) = .ok (none, rest) := by
  rw [nextName, skipBlanks_append hbs, skipBlanks_cons (by decide)]
  rfl

theorem colon_cons (rest : List Char) : colon (':' :: rest) = .ok rest := by
  rw [colon, skipBlanks_cons (by decide)]
  rfl

/-! ## Loops -/

variable {σ : Type} {fuel : Nat}

/-- **The loop over elements**, entered behind the opening bracket, takes one element after the other if
each step takes its own: the state is known from the elements that are done. -/
theorem readElements_array {step : σ → Reader σ} {vs : List Value} (state : List Value → σ)
    (hvs : ∀ v ∈ vs, v.IsExact) (hfuel : ((Value.array vs).writeAt layout depth).length < fuel)
    (hstep : ∀ done v todo, vs = done ++ v :: todo → ∀ rest, EndsNumber rest →
      step (state done) (v.writeAt layout (depth + 1) ++ rest) = .ok (state (done ++ [v]), rest))
    (rest : List Char) :
    ∃ inner, (Value.array vs).writeAt layout depth ++ rest = '[' :: inner ∧
      readElements step fuel true (state []) inner = .ok (state vs, rest) := by
  obtain ⟨bs, hbs, hwritten⟩ := writeAt_array_eq layout depth vs
  -- By induction on the elements still to be read, with the others in the state.
  have hloop : ∀ todo done fuel first, vs = done ++ todo → todo.length < fuel →
      readElements step fuel first (state done)
        (lines layout (depth + 1) first (todo.map (Value.writeAt layout (depth + 1))) ++
          (bs ++ ']' :: rest)) = .ok (state vs, rest) := by
    intro todo
    induction todo with
    | nil =>
        intro done fuel first hsplit hfuel
        obtain ⟨fuel, rfl⟩ := Nat.exists_eq_succ_of_ne_zero (Nat.ne_of_gt hfuel)
        rw [List.append_nil] at hsplit
        simp [readElements, lines, nextElement_close hbs, hsplit, bind, Except.bind, pure, Except.pure]
    | cons v todo ih =>
        intro done fuel first hsplit hfuel
        obtain ⟨fuel, rfl⟩ := Nat.exists_eq_succ_of_ne_zero (Nat.ne_of_gt (Nat.zero_lt_of_lt hfuel))
        have hv := hvs v (by simp [hsplit])
        have hends : EndsNumber (lines layout (depth + 1) false
            (todo.map (Value.writeAt layout (depth + 1))) ++ (bs ++ ']' :: rest)) :=
          endsNumber_lines hbs (endsNumber_cons (by decide) _) _
        have hread := hstep done v todo hsplit _ hends
        have hnext := ih (done ++ [v]) fuel false (by simp [hsplit]) (Nat.lt_of_succ_lt_succ hfuel)
        rw [readElements, List.map_cons, nextElement_item (starts_writeAt hv)]
        simp only [bind, Except.bind]
        rw [hread]
        exact hnext
  refine ⟨_, ?_, hloop vs [] fuel true rfl (Nat.lt_trans (length_elements_lt hvs) hfuel)⟩
  simp [hwritten]

/-- **The loop over members**, entered behind the opening brace, takes one member after the other if
each step takes what follows the name. -/
theorem readMembers_object {step : σ → String → Reader σ} {ms : List (String × Value)}
    (state : List (String × Value) → σ)
    (hfuel : ((Value.object ms).writeAt layout depth).length < fuel)
    (hstep : ∀ done m todo, ms = done ++ m :: todo → ∀ rest, EndsNumber rest →
      step (state done) m.1 (':' :: (layout.gap ++ (m.2.writeAt layout (depth + 1) ++ rest))) =
        .ok (state (done ++ [m]), rest))
    (rest : List Char) :
    ∃ inner, (Value.object ms).writeAt layout depth ++ rest = '\x7b' :: inner ∧
      readMembers step fuel true (state []) inner = .ok (state ms, rest) := by
  obtain ⟨bs, hbs, hwritten⟩ := writeAt_object_eq layout depth ms
  -- As for elements, but the loop itself reads the name.
  have hloop : ∀ todo done fuel first, ms = done ++ todo → todo.length < fuel →
      readMembers step fuel first (state done)
        (lines layout (depth + 1) first (todo.map (memberText layout (depth + 1))) ++
          (bs ++ '\x7d' :: rest)) = .ok (state ms, rest) := by
    intro todo
    induction todo with
    | nil =>
        intro done fuel first hsplit hfuel
        obtain ⟨fuel, rfl⟩ := Nat.exists_eq_succ_of_ne_zero (Nat.ne_of_gt hfuel)
        rw [List.append_nil] at hsplit
        simp [readMembers, lines, nextName_close hbs, hsplit, bind, Except.bind, pure, Except.pure]
    | cons m todo ih =>
        intro done fuel first hsplit hfuel
        obtain ⟨fuel, rfl⟩ := Nat.exists_eq_succ_of_ne_zero (Nat.ne_of_gt (Nat.zero_lt_of_lt hfuel))
        have hends : EndsNumber (lines layout (depth + 1) false
            (todo.map (memberText layout (depth + 1))) ++ (bs ++ '\x7d' :: rest)) :=
          endsNumber_lines hbs (endsNumber_cons (by decide) _) _
        have hread := hstep done m todo hsplit _ hends
        have hnext := ih (done ++ [m]) fuel false (by simp [hsplit]) (Nat.lt_of_succ_lt_succ hfuel)
        rw [readMembers, List.map_cons, nextName_item]
        simp only [bind, Except.bind]
        rw [hread]
        exact hnext
  refine ⟨_, ?_, hloop ms [] fuel true rfl (Nat.lt_trans (length_members_lt ms) hfuel)⟩
  simp [hwritten]

/-! ## Values -/

/-- Blanks before a value do not matter. -/
theorem readValue_append {bs : List Char} (hbs : ∀ c ∈ bs, isBlank c = true) (fuel room : Nat)
    (cs : List Char) : readValue fuel room (bs ++ cs) = readValue fuel room cs := by
  unfold readValue
  rw [skipBlanks_append hbs]

/-- A value that starts like a number is one. -/
theorem readValue_number {c : Char} (h : c = '-' ∨ c.isDigit = true) (fuel room : Nat)
    (cs : List Char) :
    readValue fuel room (c :: cs) =
      (readNumber (c :: cs)).map fun (number, rest) => (.number number, rest) := by
  unfold readValue
  rw [skipBlanks_cons (isBlank_of_startsNumber h)]
  rcases h with rfl | h
  · simp
  · split <;> simp_all

/-- **A written value is read back**, whatever follows it, and the rest of the text is left. -/
theorem readValue_writeAt {v : Value} (hv : v.IsExact) {depth room fuel : Nat} {rest : List Char}
    (hroom : v.depth ≤ room) (hfuel : (v.writeAt layout depth).length < fuel) (hrest : EndsNumber rest) :
    readValue fuel room (v.writeAt layout depth ++ rest) = .ok (v, rest) := by
  induction hv generalizing depth room rest with
  | null =>
      unfold readValue
      rw [writeAt_null, List.cons_append, skipBlanks_cons (by decide)]
      exact word_append _ ['u', 'l', 'l'] rest
  | bool b =>
      unfold readValue
      rw [writeAt_bool]
      cases b with
      | true => exact word_append _ ['r', 'u', 'e'] rest
      | false => exact word_append _ ['a', 'l', 's', 'e'] rest
  | @integer n word =>
      have hread := readNumber_writeInteger word hrest
      obtain ⟨c, cs, hwritten, hc⟩ := writeInteger_eq_cons n
      rw [hwritten, List.cons_append] at hread
      rw [writeAt_number, Number.write, hwritten, List.cons_append, readValue_number hc, hread]
      rfl
  | string text =>
      unfold readValue
      rw [writeAt_string, writeString, List.cons_append, skipBlanks_cons (by decide), List.append_assoc]
      simp [readString_escaped, Except.map]
  | @array vs elements ih =>
      obtain ⟨room, rfl, hdepth⟩ := exists_room_of_array hroom
      -- The reader holds the elements latest first.
      have hstep : ∀ done v todo, vs = done ++ v :: todo → ∀ rest, EndsNumber rest →
          addElement (readValue fuel room) done.reverse (v.writeAt layout (depth + 1) ++ rest) =
            .ok ((done ++ [v]).reverse, rest) := by
        intro done v todo hvs rest hrest
        have hv : v ∈ vs := by simp [hvs]
        have hread := ih v hv (hdepth v hv) (Nat.lt_trans (length_element_lt hv) hfuel) hrest
        simp [addElement, hread, bind, Except.bind, pure, Except.pure]
      obtain ⟨inner, htext, hloop⟩ := readElements_array List.reverse elements hfuel hstep rest
      unfold readValue
      rw [htext, skipBlanks_cons (by decide)]
      simp only [List.reverse_nil] at hloop
      simp [hloop, Except.map]
  | @object ms nodup members ih =>
      obtain ⟨room, rfl, hdepth⟩ := exists_room_of_object hroom
      have hstep : ∀ done m todo, ms = done ++ m :: todo → ∀ rest, EndsNumber rest →
          addMember (readValue fuel room) (id done) m.1
            (':' :: (layout.gap ++ (m.2.writeAt layout (depth + 1) ++ rest))) =
              .ok (id (done ++ [m]), rest) := by
        intro done m todo hms rest hrest
        have hm : m ∈ ms := by simp [hms]
        have hread := ih m hm (hdepth m hm) (Nat.lt_trans (length_member_lt hm) hfuel) hrest
        -- A name that is new sends its member to the end.
        have hnew : m.1 ∉ done.map Prod.fst := Entries.not_mem_of_nodup (hms ▸ nodup)
        rw [addMember, colon_cons]
        simp only [bind, Except.bind]
        rw [readValue_append (fun c => isBlank_of_mem_gap), hread]
        simp [Entries.set_of_not_mem hnew, pure, Except.pure]
      obtain ⟨inner, htext, hloop⟩ := readMembers_object id hfuel hstep rest
      unfold readValue
      rw [htext, skipBlanks_cons (by decide)]
      simp only [id_eq] at hloop
      simp [hloop, Except.map]

/-! ## Documents -/

/-- A document is read if its value is and only blanks follow. -/
theorem readDocument_eq_ok {α : Type} {read : (fuel : Nat) → Reader α} {text : String} {value : α}
    {rest : List Char} (hread : read (text.toList.length + 1) text.toList = .ok (value, rest))
    (hrest : ∀ c ∈ rest, isBlank c = true) : readDocument read text = .ok value := by
  have hblank : skipBlanks rest = [] := by
    rw [← List.append_nil rest, skipBlanks_append hrest]
    rfl
  simp only [readDocument, hread, bind, Except.bind]
  rw [hblank]
  rfl

theorem endsNumber_blanks {bs : List Char} (hbs : ∀ c ∈ bs, isBlank c = true) : EndsNumber bs := by
  cases bs with
  | nil => exact fun c hc => by simp at hc
  | cons b bs => exact endsNumber_blank (hbs b List.mem_cons_self) bs

/-- **A written value is decoded** to itself, if it is not nested too deeply. -/
theorem decode_write {v : Value} (hv : v.IsExact) (hdepth : v.depth ≤ depthLimit) {bs : List Char}
    (hbs : ∀ c ∈ bs, isBlank c = true) :
    decode (String.ofList (v.write layout ++ bs)) = .ok v := by
  refine readDocument_eq_ok ?_ hbs
  rw [String.toList_ofList, ← writeAt_zero]
  refine readValue_writeAt hv hdepth ?_ (endsNumber_blanks hbs)
  rw [List.length_append]
  omega

end QueryGraph.Json
