import QueryGraph.Graph.Model

/-!
# `Proofs.Rdf.Key` — what a key says about its term

A key is a word for the kind of the term, followed by unescaped text. The words start with five
different letters, so keys of different kinds never meet. The key of a variable, an IRI or a blank
node holds all of the term. That of a literal joins three texts with bars: it can be cut from the
right, as long as there is no bar in the language and the datatype, and an absent tag is not confused
with an empty one.

## Contents
- `Term.initial`, `nodeKind_eq_of_key_eq` — the kind of a term can be told from its key.
- `eq_of_key_eq` — so can the term itself, unless it is a literal.
- `Term.IsClean`, `eq_of_key_eq_of_isClean` — and for literals with proper tags as well.
-/

namespace QueryGraph

namespace Term

/-! ## Kinds -/

/-- The letter that the keys of a kind of term start with. -/
def initial : Term → Char
  | var _ => 'v'
  | blank _ => 'b'
  | iri _ => 'i'
  | literal _ => 'l'
  | unknown => 't'

theorem head?_key (t : Term) : t.key.toList.head? = some t.initial := by
  cases t <;> simp [key, initial, unknownKey, String.toList_append]

theorem initial_eq_of_key_eq {s t : Term} (h : s.key = t.key) : s.initial = t.initial := by
  have hhead : some s.initial = some t.initial := by rw [← head?_key, ← head?_key, h]
  exact Option.some.inj hhead

/-- The key of a term tells as what it is drawn. -/
theorem nodeKind_eq_of_key_eq {s t : Term} (h : s.key = t.key) : s.nodeKind = t.nodeKind := by
  have hinit := initial_eq_of_key_eq h
  cases s <;> cases t <;> simp_all [initial, nodeKind]

/-! ## Terms -/

/-- **A term that is no literal is known by its key.** -/
theorem eq_of_key_eq {s t : Term} (hs : ∀ l, s ≠ .literal l) (h : s.key = t.key) : s = t := by
  have hinit := initial_eq_of_key_eq h
  have hlist := congrArg String.toList h
  -- The letters leave the five pairs of terms of one kind.
  cases s <;> cases t <;> simp [initial] at hinit
  case literal.literal l m => exact absurd rfl (hs l)
  case unknown.unknown => rfl
  all_goals
    simp only [key, String.toList_append, List.append_right_inj] at hlist
    rw [String.toList_injective hlist]

end Term

/-! ## Literals -/

/-- A language or a datatype as it can stand in a query: absent, or a text that is not empty and has
no bar in it. -/
def IsCleanTag (tag : Option String) : Prop := ∀ text ∈ tag, text ≠ "" ∧ '|' ∉ text.toList

/-- A literal with a language and a datatype as they can stand in a query; its value may be any
text. -/
def Literal.IsClean (l : Literal) : Prop := IsCleanTag l.language ∧ IsCleanTag l.datatype

/-- A term whose tags, if it is a literal, can stand in a query. -/
def Term.IsClean : Term → Prop
  | .literal l => l.IsClean
  | .var _ | .iri _ | .blank _ | .unknown => True

/-- Two texts with a bar before their ends can only agree in the whole if they agree on both sides
of it. -/
theorem eq_and_eq_of_append_cons_eq {α : Type} {x : α} {a b c d : List α} (hb : x ∉ b) (hd : x ∉ d)
    (h : a ++ x :: b = c ++ x :: d) : a = c ∧ b = d := by
  rcases List.append_eq_append_iff.mp h with ⟨e, hc, he⟩ | ⟨e, ha, he⟩
  · cases e with
    | nil => exact ⟨by simp [hc], by simpa using he⟩
    | cons y e =>
        -- The bar of the right text would stand in the left text's last part.
        obtain ⟨-, rfl⟩ := List.cons.inj he
        simp at hb
  · cases e with
    | nil => exact ⟨by simp [ha], by simpa using he.symm⟩
    | cons y e =>
        obtain ⟨-, rfl⟩ := List.cons.inj he
        simp at hd

theorem IsCleanTag.bar_not_mem {tag : Option String} (h : IsCleanTag tag) :
    '|' ∉ (tag.getD "").toList := by
  cases tag with
  | none => simp
  | some text => exact (h text rfl).2

/-- An absent tag is not written like a clean one. -/
theorem IsCleanTag.eq_of_getD_eq {tag tag' : Option String} (h : IsCleanTag tag)
    (h' : IsCleanTag tag') (heq : tag.getD "" = tag'.getD "") : tag = tag' := by
  cases tag with
  | none =>
      cases tag' with
      | none => rfl
      | some text' => exact absurd heq.symm (h' text' rfl).1
  | some text =>
      cases tag' with
      | none => exact absurd heq (h text rfl).1
      | some text' => exact congrArg some heq

/-- **A clean literal is known by its key** among the clean literals. -/
theorem Literal.eq_of_key_eq {l m : Literal} (hl : l.IsClean) (hm : m.IsClean)
    (h : (Term.literal l).key = (Term.literal m).key) : l = m := by
  obtain ⟨hll, hld⟩ := hl
  obtain ⟨hml, hmd⟩ := hm
  have hlist := congrArg String.toList h
  simp only [Term.key, String.toList_append, List.append_assoc, List.append_right_inj] at hlist
  -- The last bar comes before the datatype, the one before it before the language.
  have hcut : (l.value.toList ++ '|' :: (l.language.getD "").toList) ++ '|' ::
      (l.datatype.getD "").toList = (m.value.toList ++ '|' :: (m.language.getD "").toList) ++ '|' ::
      (m.datatype.getD "").toList := by
    simpa using hlist
  obtain ⟨hfront, hdatatype⟩ :=
    eq_and_eq_of_append_cons_eq hld.bar_not_mem hmd.bar_not_mem hcut
  obtain ⟨hvalue, hlanguage⟩ :=
    eq_and_eq_of_append_cons_eq hll.bar_not_mem hml.bar_not_mem hfront
  cases l
  cases m
  simp only [Literal.mk.injEq]
  exact ⟨String.toList_injective hvalue,
    hll.eq_of_getD_eq hml (String.toList_injective hlanguage),
    hld.eq_of_getD_eq hmd (String.toList_injective hdatatype)⟩

/-- **A clean term is known by its key** among the clean terms. -/
theorem Term.eq_of_key_eq_of_isClean {s t : Term} (hs : s.IsClean) (ht : t.IsClean)
    (h : s.key = t.key) : s = t := by
  have hinit := initial_eq_of_key_eq h
  cases s with
  | literal l =>
      cases t with
      | literal m => rw [Literal.eq_of_key_eq hs ht h]
      | var _ | iri _ | blank _ | unknown => simp [initial] at hinit
  | var _ | iri _ | blank _ | unknown => exact eq_of_key_eq (by simp) h

/-- Bars in a datatype would be taken for those around a language. -/
example : (Term.literal ⟨"a", none, some "b|c"⟩).key = (Term.literal ⟨"a|", some "b", some "c"⟩).key :=
  by decide

end QueryGraph
