import Mathlib.Data.List.Forall2
import QueryGraph.Entries
import QueryGraph.Json.Value

/-!
# `Proofs.Json.Alike` — values that look alike to whoever reads some names only

A decoder asks a value what kind of value it is, what stands under certain names and what is in an
array. Two values that answer alike cannot be told apart by it (`Alike`). This is so of values that
differ in nothing but in members under other names, at any depth, and in the order of their members:
without those members one is a reordering of the other (`alike_of_reorders`).

## Contents
- `Value.keep` — a value without the members under other names than some.
- `Value.NamesOnce` — no object in a value has two members of one name.
- `Value.Reorders` — a value with the members of its objects in another order.
- `rel_cases`, `rel_lookup` — related options, and what is found in related members.
- `Alike` — values that look alike; `Alike.get?`, `Alike.asArray?`, `Alike.elementsAt`,
  `Alike.stringAt?`, `Alike.scalarText?` — what is found in them.
- `alike_of_reorders` — the main statement.
-/

namespace QueryGraph.Json

variable {names : List String}

/-! ## Without the other members -/

mutual

/-- A value without the members whose names are not among those given, at every depth. -/
def Value.keep (names : List String) : Value → Value
  | .array vs => .array (keepElements names vs)
  | .object ms => .object (keepMembers names ms)
  | .null => .null
  | .bool b => .bool b
  | .number n => .number n
  | .string text => .string text

/-- Elements without such members. -/
def keepElements (names : List String) : List Value → List Value
  | [] => []
  | v :: vs => v.keep names :: keepElements names vs

/-- Those of some members that have the names, without such members in turn. -/
def keepMembers (names : List String) : List (String × Value) → List (String × Value)
  | [] => []
  | (name, v) :: ms =>
    if name ∈ names then (name, v.keep names) :: keepMembers names ms else keepMembers names ms

end

theorem keepElements_eq_map (vs : List Value) : keepElements names vs = vs.map (Value.keep names) := by
  induction vs with
  | nil => rfl
  | cons v vs ih => rw [keepElements, ih, List.map_cons]

theorem map_fst_keepMembers (ms : List (String × Value)) :
    (keepMembers names ms).map Prod.fst = (ms.map Prod.fst).filter (· ∈ names) := by
  induction ms with
  | nil => rfl
  | cons m ms ih =>
      obtain ⟨name, v⟩ := m
      rw [keepMembers, List.map_cons, List.filter_cons]
      by_cases h : name ∈ names
      · simp [h, ih]
      · simp [h, ih]

/-- Under the names that are kept the same is found as before. -/
theorem lookup_keepMembers {name : String} (h : name ∈ names) (ms : List (String × Value)) :
    (keepMembers names ms).lookup name = (ms.lookup name).map (Value.keep names) := by
  induction ms with
  | nil => rfl
  | cons m ms ih =>
      obtain ⟨other, v⟩ := m
      by_cases hname : name = other
      · subst hname
        simp [keepMembers, h]
      · by_cases hother : other ∈ names
        · simp [keepMembers, hother, List.lookup_cons, beq_eq_false_iff_ne.mpr hname, ih]
        · simp [keepMembers, hother, List.lookup_cons, beq_eq_false_iff_ne.mpr hname, ih]

/-! ## In another order -/

/-- No object in a value, at any depth, has two members of one name. -/
inductive Value.NamesOnce : Value → Prop
  | null : NamesOnce .null
  | bool (b : Bool) : NamesOnce (.bool b)
  | number (n : Number) : NamesOnce (.number n)
  | string (text : String) : NamesOnce (.string text)
  | array {vs : List Value} (elements : ∀ v ∈ vs, v.NamesOnce) : NamesOnce (.array vs)
  | object {ms : List (String × Value)} (nodup : (ms.map Prod.fst).Nodup)
    (members : ∀ m ∈ ms, m.2.NamesOnce) : NamesOnce (.object ms)

attribute [simp] Value.NamesOnce.null Value.NamesOnce.bool Value.NamesOnce.number Value.NamesOnce.string

@[simp] theorem Value.namesOnce_array {vs : List Value} :
    (Value.array vs).NamesOnce ↔ ∀ v ∈ vs, v.NamesOnce := by
  constructor
  · intro h
    cases h with
    | array elements => exact elements
  · exact .array

@[simp] theorem Value.namesOnce_object {ms : List (String × Value)} :
    (Value.object ms).NamesOnce ↔ (ms.map Prod.fst).Nodup ∧ ∀ m ∈ ms, m.2.NamesOnce := by
  constructor
  · intro h
    cases h with
    | object nodup members => exact ⟨nodup, members⟩
  · rintro ⟨hnodup, hmembers⟩
    exact .object hnodup hmembers

/-- The second value is the first one with the members of each object, at any depth, in another order. -/
inductive Value.Reorders : Value → Value → Prop
  | refl (v : Value) : Reorders v v
  | array {vs ws : List Value} (elements : List.Forall₂ Reorders vs ws) :
    Reorders (.array vs) (.array ws)
  | object {ms order ns : List (String × Value)} (perm : ms.Perm order)
    (names : order.map Prod.fst = ns.map Prod.fst)
    (values : List.Forall₂ Reorders (order.map Prod.snd) (ns.map Prod.snd)) :
    Reorders (.object ms) (.object ns)

namespace Value

/-- A reordered array has the elements of the first one, reordered. -/
theorem Reorders.exists_elements {vs : List Value} {w : Value} (h : Reorders (.array vs) w) :
    ∃ ws, w = .array ws ∧ List.Forall₂ Reorders vs ws := by
  cases h with
  | refl => exact ⟨vs, rfl, List.forall₂_same.mpr fun v _ => .refl v⟩
  | array elements => exact ⟨_, rfl, elements⟩

/-- A reordered object has the members of the first one, in another order and reordered. -/
theorem Reorders.exists_members {ms : List (String × Value)} {w : Value} (h : Reorders (.object ms) w) :
    ∃ order ns, w = .object ns ∧ ms.Perm order ∧ order.map Prod.fst = ns.map Prod.fst ∧
      List.Forall₂ Reorders (order.map Prod.snd) (ns.map Prod.snd) := by
  cases h with
  | refl => exact ⟨ms, ms, rfl, .rfl, rfl, List.forall₂_same.mpr fun v _ => .refl v⟩
  | object perm names values => exact ⟨_, _, rfl, perm, names, values⟩

/-- What is neither an array nor an object has no other order. -/
theorem Reorders.eq_of_scalar {v w : Value} (h : Reorders v w) (harray : ∀ vs, v ≠ .array vs)
    (hobject : ∀ ms, v ≠ .object ms) : w = v := by
  cases h with
  | refl => rfl
  | array elements => exact absurd rfl (harray _)
  | object perm names values => exact absurd rfl (hobject _)

end Value

/-- Members with the same names in the same order have values under the same names, related pair by
pair. -/
theorem rel_lookup {α : Type} {R : α → α → Prop} {ms ns : List (String × α)}
    (hnames : ms.map Prod.fst = ns.map Prod.fst)
    (hvalues : List.Forall₂ R (ms.map Prod.snd) (ns.map Prod.snd)) (name : String) :
    Option.Rel R (ms.lookup name) (ns.lookup name) := by
  induction ms generalizing ns with
  | nil =>
      obtain rfl : ns = [] := List.map_eq_nil_iff.mp hnames.symm
      exact .none
  | cons m ms ih =>
      obtain ⟨other, v⟩ := m
      cases ns with
      | nil => simp at hnames
      | cons n ns =>
          obtain ⟨same, w⟩ := n
          simp only [List.map_cons, List.cons.injEq] at hnames
          obtain ⟨rfl, hrest⟩ := hnames
          cases hvalues with
          | cons hvalue hvalues =>
              rw [List.lookup_cons, List.lookup_cons]
              cases name == other with
              | true => exact .some hvalue
              | false => exact ih hrest hvalues

/-! ## Values that look alike -/

/-- Two values that look alike to whoever asks for the given names only. -/
inductive Alike (names : List String) : Value → Value → Prop
  | same (v : Value) : Alike names v v
  | array {vs ws : List Value} (elements : List.Forall₂ (Alike names) vs ws) :
    Alike names (.array vs) (.array ws)
  | object {ms ns : List (String × Value)}
    (members : ∀ name ∈ names, Option.Rel (Alike names) (ms.lookup name) (ns.lookup name)) :
    Alike names (.object ms) (.object ns)

/-- Two related options are both empty, or have two related values. -/
theorem rel_cases {α : Type} {R : α → α → Prop} {x y : Option α} (h : Option.Rel R x y) :
    (x = none ∧ y = none) ∨ ∃ a b, x = some a ∧ y = some b ∧ R a b := by
  cases h with
  | none => exact .inl ⟨rfl, rfl⟩
  | some hab => exact .inr ⟨_, _, rfl, rfl, hab⟩

/-- Options are related as the values in them are, be it only after a function has been applied. -/
theorem rel_of_rel_map {α β : Type} {R : β → β → Prop} {f : α → β} {x y : Option α}
    (h : Option.Rel R (x.map f) (y.map f)) : Option.Rel (fun a b => R (f a) (f b)) x y := by
  cases x with
  | none =>
      cases y with
      | none => exact .none
      | some b => exact absurd h (by simp)
  | some a =>
      cases y with
      | none => exact absurd h (by simp)
      | some b => exact .some (Option.rel_some_some.mp h)

theorem rel_alike_same (v : Option Value) : Option.Rel (Alike names) v v := by
  cases v with
  | none => exact .none
  | some v => exact .some (.same v)

namespace Alike

variable {v w : Value}

theorem isObject (h : Alike names v w) : v.isObject = w.isObject := by
  cases h <;> rfl

theorem asString? (h : Alike names v w) : v.asString? = w.asString? := by
  cases h <;> rfl

theorem scalarText? (h : Alike names v w) : v.scalarText? = w.scalarText? := by
  cases h <;> rfl

theorem asArray? (h : Alike names v w) :
    Option.Rel (List.Forall₂ (Alike names)) v.asArray? w.asArray? := by
  cases h with
  | same =>
      cases v.asArray? with
      | none => exact .none
      | some vs => exact .some (List.forall₂_same.mpr fun v _ => .same v)
  | array elements => exact .some elements
  | object members => exact .none

/-- **Under a name that is asked for** they have values that look alike, or both none. -/
theorem get? (h : Alike names v w) (name : String) (hname : name ∈ names) :
    Option.Rel (Alike names) (v.get? name) (w.get? name) := by
  cases h with
  | same => exact rel_alike_same _
  | array elements => exact .none
  | object members => exact members name hname

/-- So they have the same of whatever two values that look alike have both. -/
theorem bind_get? {α : Type} {f : Value → Option α} (h : Alike names v w) (name : String)
    (hname : name ∈ names) (hf : ∀ {x y}, Alike names x y → f x = f y) :
    (v.get? name).bind f = (w.get? name).bind f := by
  rcases rel_cases (h.get? name hname) with ⟨hv, hw⟩ | ⟨x, y, hv, hw, hxy⟩
  · rw [hv, hw]
  · rw [hv, hw]
    exact hf hxy

theorem stringAt? (h : Alike names v w) (name : String) (hname : name ∈ names) :
    v.stringAt? name = w.stringAt? name :=
  h.bind_get? name hname asString?

theorem arrayAt? (h : Alike names v w) (name : String) (hname : name ∈ names) :
    Option.Rel (List.Forall₂ (Alike names)) (v.arrayAt? name) (w.arrayAt? name) := by
  unfold Value.arrayAt?
  rcases rel_cases (h.get? name hname) with ⟨hv, hw⟩ | ⟨x, y, hv, hw, hxy⟩
  · rw [hv, hw]
    exact .none
  · rw [hv, hw]
    exact hxy.asArray?

theorem elementsAt (h : Alike names v w) (name : String) (hname : name ∈ names) :
    List.Forall₂ (Alike names) (v.elementsAt name) (w.elementsAt name) := by
  unfold Value.elementsAt
  rcases rel_cases (h.arrayAt? name hname) with ⟨hv, hw⟩ | ⟨vs, ws, hv, hw, helements⟩
  · rw [hv, hw]
    exact .nil
  · rw [hv, hw]
    exact helements

end Alike

/-- What looks alike is read alike, element by element. -/
theorem map_eq_of_alike {α : Type} {f : Value → α} {vs ws : List Value}
    (h : List.Forall₂ (Alike names) vs ws) (hf : ∀ v ∈ vs, ∀ w, Alike names v w → f v = f w) :
    vs.map f = ws.map f := by
  have hboth := (List.forall₂_and_left _ _).mpr ⟨hf, h⟩
  have hpairs : List.Forall₂ Eq (vs.map f) (ws.map f) := by
    rw [List.forall₂_map_left_iff, List.forall₂_map_right_iff]
    exact hboth.imp fun v w hvw => hvw.1 w hvw.2
  rwa [List.forall₂_eq_eq_eq] at hpairs

/-! ## Other members and another order -/

theorem exists_array_of_keep {w : Value} {vs : List Value} (h : w.keep names = .array vs) :
    ∃ ws, w = .array ws ∧ vs = ws.map (Value.keep names) := by
  cases w with
  | array ws =>
      rw [Value.keep, keepElements_eq_map] at h
      exact ⟨ws, rfl, (Value.array.inj h).symm⟩
  | _ => simp [Value.keep] at h

theorem exists_object_of_keep {w : Value} {ms : List (String × Value)} (h : w.keep names = .object ms) :
    ∃ ns, w = .object ns ∧ ms = keepMembers names ns := by
  cases w with
  | object ns =>
      rw [Value.keep] at h
      exact ⟨ns, rfl, (Value.object.inj h).symm⟩
  | _ => simp [Value.keep] at h

/-- **Members under other names and the order of members** make no difference in how a value looks. -/
theorem alike_of_reorders {v w : Value} (hv : v.NamesOnce)
    (h : (v.keep names).Reorders (w.keep names)) : Alike names v w := by
  induction hv generalizing w with
  | null | bool _ | number _ | string _ =>
      have hw := h.eq_of_scalar (by simp [Value.keep]) (by simp [Value.keep])
      cases w <;> simp_all [Value.keep, Alike.same]
  | @array vs _ ih =>
      rw [Value.keep, keepElements_eq_map] at h
      obtain ⟨kept, hkept, helements⟩ := h.exists_elements
      obtain ⟨ws, rfl, rfl⟩ := exists_array_of_keep hkept
      rw [List.forall₂_map_left_iff, List.forall₂_map_right_iff] at helements
      have halike : ∀ v ∈ vs, ∀ w, (v.keep names).Reorders (w.keep names) → Alike names v w := by
        intro v hv w hvw
        exact ih v hv hvw
      have hboth := (List.forall₂_and_left _ _).mpr ⟨halike, helements⟩
      exact .array (hboth.imp fun v w hvw => hvw.1 w hvw.2)
  | @object ms hnodup _ ih =>
      rw [Value.keep] at h
      obtain ⟨order, kept, hkept, hperm, hnames, hvalues⟩ := h.exists_members
      obtain ⟨ns, rfl, rfl⟩ := exists_object_of_keep hkept
      have hnodup' : ((keepMembers names ms).map Prod.fst).Nodup := by
        rw [map_fst_keepMembers]
        exact hnodup.filter _
      -- Names are compared in the order that the kept members have been brought into; since none comes
      -- twice, what is found under them is what was found before.
      refine .object fun name hname => ?_
      have hfound : Option.Rel Value.Reorders ((ms.lookup name).map (Value.keep names))
          ((ns.lookup name).map (Value.keep names)) := by
        rw [← lookup_keepMembers hname, ← lookup_keepMembers hname,
          Entries.lookup_eq_of_perm hperm hnodup']
        exact rel_lookup hnames hvalues name
      rcases rel_cases (rel_of_rel_map hfound) with ⟨hm, hn⟩ | ⟨v, w, hm, hn, hvw⟩
      · rw [hm, hn]
        exact .none
      · rw [hm, hn]
        exact .some (ih _ ((Entries.lookup_eq_some_iff_mem hnodup).mp hm) hvw)

end QueryGraph.Json
