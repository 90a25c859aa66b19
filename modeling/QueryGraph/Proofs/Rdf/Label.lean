import QueryGraph.Proofs.Rdf.Compaction
import QueryGraph.Proofs.Rdf.Key

/-!
# `Proofs.Rdf.Label` — what a label says about its term

A label is for people to read. Unlike a key it does not say in so many words what kind of term it belongs
to: it shows a variable by its question mark, a blank node by its underscore, a literal by its quotation
marks, and everything else is an IRI. An IRI may have any text, and a short form may look like an IRI, so
two terms can share a label. They cannot when each of them can be recognized.

## Contents
- `look`, `look_label` — the kind of term that a text looks like.
- `Prefixes.Recognizes`, `compact_injective` — IRIs that can be told from their short forms.
- `Literal.IsRecognizable`, `Term.IsRecognizable` — terms that can be told from their labels.
- `Literal.eq_of_label_eq`, `Term.eq_of_label_eq` — the main statement.
-/

namespace QueryGraph

open Prefixes (startsWith)

/-! ## Short forms -/

namespace Prefixes

variable {p : Prefixes} {iri iri' : String}

/-- **An IRI is told from other IRIs by its short form**: the prefix that it is compacted with has no
colon in its name. If it is not compacted, it does not begin like a short form. -/
def Recognizes (p : Prefixes) (iri : String) : Prop :=
  (∀ d ∈ p.bestMatch? iri, ':' ∉ d.1.toList) ∧
    (p.bestMatch? iri = none → ∀ d ∈ p.entries, startsWith iri (d.1 ++ ":") = false)

instance (p : Prefixes) (iri : String) : Decidable (p.Recognizes iri) :=
  inferInstanceAs (Decidable (_ ∧ _))

theorem compact_of_bestMatch?_eq_none (h : p.bestMatch? iri = none) : p.compact iri = iri := by
  rw [compact, h]

/-- What is compacted does not look like what is not. -/
theorem compact_ne_of_bestMatch? {d : String × String} (hd : p.bestMatch? iri = some d)
    (hnone : p.bestMatch? iri' = none) (h' : p.Recognizes iri') : p.compact iri ≠ iri' := by
  obtain ⟨rest, -, hshort⟩ := exists_compact_eq_of_bestMatch? hd
  rintro rfl
  have hbegins : startsWith (p.compact iri) (d.1 ++ ":") = true := startsWith_iff.mpr ⟨rest, hshort⟩
  rw [h'.2 hnone d (mem_of_bestMatch? hd).1] at hbegins
  exact Bool.false_ne_true hbegins

/-- **Different IRIs have different short forms** if each of them is told from others by its own. -/
theorem compact_injective (h : p.Recognizes iri) (h' : p.Recognizes iri')
    (hsame : p.compact iri = p.compact iri') : iri = iri' := by
  cases hbest : p.bestMatch? iri with
  | none =>
      rw [compact_of_bestMatch?_eq_none hbest] at hsame
      cases hbest' : p.bestMatch? iri' with
      | none => rw [hsame, compact_of_bestMatch?_eq_none hbest']
      | some d' => exact absurd hsame.symm (compact_ne_of_bestMatch? hbest' hbest h)
  | some d =>
      cases hbest' : p.bestMatch? iri' with
      | none =>
          rw [compact_of_bestMatch?_eq_none hbest'] at hsame
          exact absurd hsame (compact_ne_of_bestMatch? hbest hbest' h')
      | some d' =>
          obtain ⟨rest, hiri, hshort⟩ := exists_compact_eq_of_bestMatch? hbest
          obtain ⟨rest', hiri', hshort'⟩ := exists_compact_eq_of_bestMatch? hbest'
          have hcut := cutAtColon_append (h.1 d hbest) rest
          rw [← hshort, hsame, hshort', cutAtColon_append (h'.1 d' hbest') rest'] at hcut
          obtain ⟨hname, hrest⟩ := Prod.mk.inj (Option.some.inj hcut)
          -- A name is declared once, so the namespaces are the same, too.
          have hns := get?_of_mem (mem_of_bestMatch? hbest).1
          rw [← hname, get?_of_mem (mem_of_bestMatch? hbest').1] at hns
          rw [hiri, hiri', hrest, Option.some.inj hns]

end Prefixes

/-! ## Kinds -/

/-- The kind of term that a text looks like, as the letter that the keys of this kind start with. -/
def look (text : String) : Char :=
  if startsWith text "?" then 'v'
  else if startsWith text "_:" then 'b'
  else if startsWith text "\"" then 'l'
  else if text = Term.unknownLabel then 't'
  else 'i'

/-! ## Recognizable terms -/

/-- **A literal is told from other literals by its label**: there is no quotation mark in its tag, and a
language does not hide a datatype. -/
inductive Literal.IsRecognizable (p : Prefixes) : Literal → Prop
  | plain (value : String) : IsRecognizable p ⟨value, none, none⟩
  | tagged (value language : String) (hquote : '"' ∉ language.toList) :
      IsRecognizable p ⟨value, some language, none⟩
  | typed (value datatype : String) (hquote : '"' ∉ (p.compact datatype).toList)
      (hshort : p.Recognizes datatype) : IsRecognizable p ⟨value, none, some datatype⟩

/-- **A term is told from other terms by its label.** An IRI must look like one. -/
def Term.IsRecognizable (p : Prefixes) : Term → Prop
  | .iri i => look (p.compact i) = 'i' ∧ p.Recognizes i
  | .literal l => l.IsRecognizable p
  | .var _ | .blank _ | .unknown => True

variable {p : Prefixes}

/-! ## Literals -/

/-- What is behind the value of a literal in its label. -/
def Literal.tag (p : Prefixes) (l : Literal) : String :=
  match l.language, l.datatype with
  | some language, _ => "@" ++ language
  | none, some datatype => "^^" ++ p.compact datatype
  | none, none => ""

theorem Literal.label_eq (p : Prefixes) (l : Literal) :
    (Term.literal l).label p = "\"" ++ l.value ++ "\"" ++ l.tag p := by
  obtain ⟨value, _ | language, _ | datatype⟩ := l
  · simp [Term.label, tag]
  all_goals simp only [Term.label, tag, ← String.append_assoc]

theorem Literal.IsRecognizable.quote_not_mem_tag {l : Literal} (h : l.IsRecognizable p) :
    '"' ∉ (l.tag p).toList := by
  cases h with
  | plain value => simp [tag]
  | tagged value language hquote => simpa [tag, String.toList_append] using hquote
  | typed value datatype hquote hshort => simpa [tag, String.toList_append] using hquote

/-- The tag shows the language and the datatype. -/
theorem Literal.eq_of_tag_eq {l m : Literal} (hl : l.IsRecognizable p) (hm : m.IsRecognizable p)
    (hvalue : l.value = m.value) (htag : (l.tag p).toList = (m.tag p).toList) : l = m := by
  cases hl with
  | plain value =>
      cases hm with
      | plain value' => exact congrArg (Literal.mk · none none) hvalue
      | tagged | typed => simp [tag, String.toList_append] at htag
  | tagged value language =>
      cases hm with
      | tagged value' language' =>
          simp only [tag, String.toList_append, List.append_right_inj, String.toList_inj] at htag
          rw [htag]
          exact congrArg (Literal.mk · (some language') none) hvalue
      | plain | typed => simp [tag, String.toList_append] at htag
  | typed value datatype hquote hshort =>
      cases hm with
      | typed value' datatype' hquote' hshort' =>
          simp only [tag, String.toList_append, List.append_right_inj, String.toList_inj] at htag
          obtain rfl := Prefixes.compact_injective hshort hshort' htag
          exact congrArg (Literal.mk · none (some datatype)) hvalue
      | plain | tagged => simp [tag, String.toList_append] at htag

/-- **A recognizable literal is known by its label** among the recognizable literals. -/
theorem Literal.eq_of_label_eq {l m : Literal} (hl : l.IsRecognizable p) (hm : m.IsRecognizable p)
    (h : (Term.literal l).label p = (Term.literal m).label p) : l = m := by
  have hlist := congrArg String.toList h
  simp only [label_eq, String.toList_append, List.append_assoc, List.append_right_inj] at hlist
  -- The last quotation mark ends the value.
  have hcut : l.value.toList ++ '"' :: (l.tag p).toList = m.value.toList ++ '"' :: (m.tag p).toList := by
    simpa using hlist
  obtain ⟨hvalue, htag⟩ :=
    eq_and_eq_of_append_cons_eq hl.quote_not_mem_tag hm.quote_not_mem_tag hcut
  exact eq_of_tag_eq hl hm (String.toList_injective hvalue) htag

/-! ## Terms -/

namespace Term

/-- A recognizable term looks like what it is. -/
theorem look_label {t : Term} (h : t.IsRecognizable p) : look (t.label p) = t.initial := by
  cases t with
  | var name => simp [look, label, initial, startsWith, String.toList_append]
  | blank name => simp [look, label, initial, startsWith, String.toList_append]
  | iri i => exact h.1
  | literal l =>
      rw [Literal.label_eq]
      simp [look, initial, startsWith, String.toList_append]
  | unknown =>
      show look unknownLabel = 't'
      decide

/-- **A recognizable term is known by its label** among the recognizable terms. -/
theorem eq_of_label_eq {s t : Term} (hs : s.IsRecognizable p) (ht : t.IsRecognizable p)
    (h : s.label p = t.label p) : s = t := by
  have hinit : s.initial = t.initial := by rw [← look_label hs, ← look_label ht, h]
  have hlist := congrArg String.toList h
  -- The letters leave the five pairs of terms of one kind.
  cases s <;> cases t <;> simp [initial] at hinit
  case var.var name name' =>
      simp only [label, String.toList_append, List.append_right_inj, String.toList_inj] at hlist
      rw [hlist]
  case iri.iri i j => rw [Prefixes.compact_injective hs.2 ht.2 h]
  case blank.blank name name' =>
      simp only [label, String.toList_append, List.append_right_inj, String.toList_inj] at hlist
      rw [hlist]
  case literal.literal l m => rw [Literal.eq_of_label_eq hs ht h]
  case unknown.unknown => rfl

/-- None of the conditions is too much. An IRI may begin like a variable, a blank node, a literal, or like
the short form of another IRI; a colon may end a prefix or belong to its name; a datatype may be hidden,
and a tag may be cut off in the wrong place. -/
example : ∀ x ∈ [
      (iri "?x", var "x"),
      (iri "_:x", blank "x"),
      (iri "<?>", unknown),
      (iri "\"x\"", literal ⟨"x", none, none⟩),
      (iri "a:x", iri "http://a/x"),
      (iri "http://a/b:x", iri "http://b/x"),
      (literal ⟨"x", some "en", none⟩, literal ⟨"x", some "en", some "http://a/x"⟩),
      (literal ⟨"x", some "a\"@b", none⟩, literal ⟨"x\"@a", some "b", none⟩),
      (literal ⟨"x", none, some "a\"^^b"⟩, literal ⟨"x\"^^a", none, some "b"⟩),
      (literal ⟨"x", none, some "a:x"⟩, literal ⟨"x", none, some "http://a/x"⟩)],
    x.1 ≠ x.2 ∧
      x.1.label (.ofList [("a", "http://a/"), ("a:b", "http://b/")]) =
        x.2.label (.ofList [("a", "http://a/"), ("a:b", "http://b/")]) := by
  decide

end Term

end QueryGraph
