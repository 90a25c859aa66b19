/-!
# `Proofs.Graph.FirstSeen` — one item for each key, the first

When a graph is drawn, the first term with a key gives the node and later ones find it there. On lists
this is `List.eraseDupsBy` with equality of keys: an item stays unless an earlier one has its key.

## Contents
- `firstBy` — the first items by key, in order; `firstBy_induction` — induction along it.
- `firstBy_map` — keys of images.
- `firstBy_prefix_append` — later items change nothing in front.
- `map_firstBy`, `nodup_map_firstBy` — the keys of what stays: each once, in order of first occurrence.
- `firstBy_eq_self` — all items stay if no key comes twice.
- `find?_of_mem_firstBy` — what stays is the first item with its key.
- `find?_firstBy` — under a key the same item is found as before.
-/

namespace QueryGraph

variable {α β γ : Type} [BEq β]

/-- The items of a list without those whose key an earlier one has. -/
def firstBy (key : α → β) (l : List α) : List α := l.eraseDupsBy fun a b => key a == key b

@[simp] theorem firstBy_nil (key : α → β) : firstBy key [] = [] := rfl

theorem firstBy_cons (key : α → β) (a : α) (l : List α) :
    firstBy key (a :: l) = a :: firstBy key (l.filter fun b => !key b == key a) := by
  rw [firstBy, List.eraseDupsBy_cons, firstBy]
  congr 3
  funext b
  cases key b == key a <;> rfl

/-- Induction over a list that forgets, with each item, the later ones of its key. -/
theorem firstBy_induction (key : α → β) {motive : List α → Prop} (nil : motive [])
    (cons : ∀ a l, motive (l.filter fun b => !key b == key a) → motive (a :: l)) (l : List α) :
    motive l :=
  match l with
  | [] => nil
  | a :: l =>
    have := List.length_filter_le (fun b => !key b == key a) l
    cons a l (firstBy_induction key nil cons _)
termination_by l.length
decreasing_by simp only [List.length_cons]; omega

/-- Items may be mapped before or after, if the key of the image is what counts. -/
theorem firstBy_map (key : γ → β) (f : α → γ) (l : List α) :
    firstBy key (l.map f) = (firstBy (fun a => key (f a)) l).map f := by
  induction l using firstBy_induction (fun a => key (f a)) with
  | nil => rfl
  | cons a l ih =>
    rw [List.map_cons, firstBy_cons, firstBy_cons, List.map_cons, List.filter_map, ← ih]
    rfl

/-- **More items at the end** leave what stays of the others in front. -/
theorem firstBy_prefix_append (key : α → β) (l m : List α) :
    firstBy key l <+: firstBy key (l ++ m) := by
  induction l using firstBy_induction key generalizing m with
  | nil => exact List.nil_prefix
  | cons a l ih =>
    rw [List.cons_append, firstBy_cons, firstBy_cons, List.filter_append, List.prefix_cons_inj]
    exact ih _

/-- **The keys of what stays** are the keys of all, without repetitions. -/
theorem map_firstBy (key : α → β) (l : List α) : (firstBy key l).map key = (l.map key).eraseDups := by
  induction l using firstBy_induction key with
  | nil => rfl
  | cons a l ih =>
    rw [firstBy_cons, List.map_cons, ih, List.map_cons, List.eraseDups_cons, List.filter_map]
    rfl

section Lawful

variable [LawfulBEq β]

theorem mem_map_firstBy {key : α → β} {l : List α} {b : β} :
    b ∈ (firstBy key l).map key ↔ b ∈ l.map key := by
  rw [map_firstBy, List.mem_eraseDups]

/-- **No key comes twice.** -/
theorem nodup_map_firstBy (key : α → β) (l : List α) : ((firstBy key l).map key).Nodup := by
  induction l using firstBy_induction key with
  | nil => exact List.nodup_nil
  | cons a l ih =>
    rw [firstBy_cons, List.map_cons, List.nodup_cons]
    refine ⟨?_, ih⟩
    rw [mem_map_firstBy]
    intro hmem
    obtain ⟨b, hb, heq⟩ := List.mem_map.mp hmem
    have hne := (List.mem_filter.mp hb).2
    simp [heq] at hne

/-- Nothing is lost if no key comes twice. -/
theorem firstBy_eq_self {key : α → β} {l : List α} (h : (l.map key).Nodup) : firstBy key l = l := by
  induction l with
  | nil => rfl
  | cons a l ih =>
    rw [List.map_cons, List.nodup_cons] at h
    have hkept : l.filter (fun b => !key b == key a) = l := by
      refine List.filter_eq_self.mpr fun b hb => ?_
      have hne : key b ≠ key a := fun heq => h.1 (heq ▸ List.mem_map_of_mem hb)
      rw [beq_eq_false_iff_ne.mpr hne, Bool.not_false]
    rw [firstBy_cons, hkept, ih h.2]

/-- **What stays is the first item with its key.** -/
theorem find?_of_mem_firstBy {key : α → β} {l : List α} {a : α} (h : a ∈ firstBy key l) :
    (l.find? fun b => key b == key a) = some a := by
  induction l using firstBy_induction key with
  | nil => simp at h
  | cons b l ih =>
    rw [firstBy_cons] at h
    rcases List.mem_cons.mp h with rfl | h
    · simp
    · have hfound := ih h
      have hne : (key a == key b) = false := by
        have hmem := List.mem_of_find?_eq_some hfound
        simpa using (List.mem_filter.mp hmem).2
      have hne' : (key b == key a) = false := by
        rw [beq_eq_false_iff_ne] at hne ⊢
        exact fun he => hne he.symm
      rw [List.find?_cons_of_neg (by simp [hne']), ← hfound, List.find?_filter]
      -- An item with the key of `a` does not have the key of `b`, so the filter lets it through.
      congr 1
      funext c
      cases hc : key c == key a with
      | false => simp
      | true => simp [eq_of_beq hc, hne]

/-- **The first item with a key** is the same among all items and among those that stay. -/
theorem find?_firstBy [DecidableEq β] (key : α → β) (b : β) (l : List α) :
    (firstBy key l).find? (fun a => key a = b) = l.find? fun a => key a = b := by
  induction l using firstBy_induction key with
  | nil => rfl
  | cons a l ih =>
    rw [firstBy_cons]
    by_cases ha : key a = b
    · rw [List.find?_cons_of_pos (by simpa using ha), List.find?_cons_of_pos (by simpa using ha)]
    · rw [List.find?_cons_of_neg (by simpa using ha), List.find?_cons_of_neg (by simpa using ha), ih,
        List.find?_filter]
      -- Items with the key `b` do not have that of `a`, so none of them has been dropped.
      congr 1
      funext c
      by_cases hc : key c = b
      · have hne : b ≠ key a := fun heq => ha heq.symm
        simp [hc, hne]
      · simp [hc]

end Lawful

end QueryGraph
