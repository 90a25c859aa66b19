import Mathlib.Data.List.Nodup
import QueryGraph.Proofs.Rdf.Compaction

/-!
# `Proofs.Rdf.LongestNamespace` — with which namespace an IRI is compacted

The search for a namespace goes through the declarations once and keeps the best one so far. A later one
takes over only if it is strictly longer, so what is left at the end is the earliest of the longest ones
that fit (`Found`). Lengths may be counted in characters or in bytes: two namespaces that an IRI starts
with are the one a beginning of the other, and there the two orders agree.

Where namespaces are distinct, only one of the longest fits, and the order of the declarations does not
matter any more.

## Contents
- `Fits`, `Fits.length_lt_iff`, `Fits.eq_of_size_eq` — namespaces of one IRI, and their lengths.
- `IsLongest` — a namespace that fits, and none that fits is longer.
- `Found`, `Found.better`, `found_bestMatch?` — what the search has found, step by step and at the end.
- `bestMatch?_eq_find?` — the search in one look.
- `compact_eq_of_perm` — distinct namespaces may be declared in any order.
- `compact_by_longest` — the main statement.
-/

namespace QueryGraph.Prefixes

/-! ## Namespaces of one IRI -/

/-- The IRI starts with the namespace. -/
def Fits (iri ns : String) : Prop := ∃ rest, iri = ns ++ rest

instance (iri ns : String) : Decidable (Fits iri ns) :=
  decidable_of_iff (startsWith iri ns = true) startsWith_iff

variable {iri ns ns' : String}

theorem fits_iff : Fits iri ns ↔ ns.toList <+: iri.toList := by
  rw [Fits, ← startsWith_iff, startsWith, List.isPrefixOf_iff_prefix]

/-- Of two namespaces that an IRI starts with, one starts with the other. -/
theorem Fits.total (h : Fits iri ns) (h' : Fits iri ns') : Fits ns ns' ∨ Fits ns' ns := by
  rw [fits_iff] at h h' ⊢
  rw [fits_iff]
  exact (List.prefix_or_prefix_of_prefix h h').symm

/-- **Characters and bytes** put the namespaces of an IRI in the same order. -/
theorem Fits.length_lt_iff (h : Fits iri ns) (h' : Fits iri ns') :
    ns.length < ns'.length ↔ ns.utf8ByteSize < ns'.utf8ByteSize := by
  have hempty : ∀ s : String, s.length = 0 ↔ s.utf8ByteSize = 0 := by
    intro s
    rw [String.utf8ByteSize_eq_zero_iff, ← String.length_toList, List.length_eq_zero_iff,
      String.toList_eq_nil_iff]
  rcases h.total h' with ⟨rest, rfl⟩ | ⟨rest, rfl⟩
  · rw [String.length_append, String.utf8ByteSize_append]
    omega
  · have hrest := hempty rest
    rw [String.length_append, String.utf8ByteSize_append]
    omega

/-- Namespaces of an IRI that are of one length are the same. -/
theorem Fits.eq_of_size_eq (h : Fits iri ns) (h' : Fits iri ns')
    (hsize : ns.utf8ByteSize = ns'.utf8ByteSize) : ns = ns' := by
  have hrest : ∀ {s rest : String}, (s ++ rest).utf8ByteSize = s.utf8ByteSize → s ++ rest = s := by
    intro s rest hs
    rw [String.utf8ByteSize_append, Nat.add_eq_left, String.utf8ByteSize_eq_zero_iff] at hs
    rw [hs, String.append_empty]
  rcases h.total h' with ⟨rest, rfl⟩ | ⟨rest, rfl⟩
  · exact hrest hsize
  · exact (hrest hsize.symm).symm

/-- **A longest namespace** among some declarations: the IRI starts with it, and with none that takes
more bytes. -/
structure IsLongest (ds : List (String × String)) (iri ns : String) : Prop where
  fits : Fits iri ns
  longest : ∀ d ∈ ds, Fits iri d.2 → d.2.utf8ByteSize ≤ ns.utf8ByteSize

theorem isLongest_iff {ds : List (String × String)} : IsLongest ds iri ns ↔
    Fits iri ns ∧ ∀ d ∈ ds, Fits iri d.2 → d.2.utf8ByteSize ≤ ns.utf8ByteSize :=
  ⟨fun h => ⟨h.fits, h.longest⟩, fun h => ⟨h.1, h.2⟩⟩

instance (ds : List (String × String)) (iri ns : String) : Decidable (IsLongest ds iri ns) :=
  decidable_of_iff _ isLongest_iff.symm

/-! ## The search -/

/-- **What the search has found** in the declarations that it has gone through: nothing, if none fits;
otherwise one that fits, with shorter ones before it and no longer ones behind it. -/
inductive Found (iri : String) : List (String × String) → Option (String × String) → Prop
  | nothing {ds : List (String × String)} (h : ∀ d ∈ ds, ¬Fits iri d.2) : Found iri ds none
  | entry {front back : List (String × String)} {d : String × String} (fits : Fits iri d.2)
      (before : ∀ e ∈ front, Fits iri e.2 → e.2.utf8ByteSize < d.2.utf8ByteSize)
      (behind : ∀ e ∈ back, Fits iri e.2 → e.2.utf8ByteSize ≤ d.2.utf8ByteSize) :
      Found iri (front ++ d :: back) (some d)

variable {ds : List (String × String)} {best : Option (String × String)} {d : String × String}

/-- **A step of the search** finds what there is with one more declaration. -/
theorem Found.better (h : Found iri ds best) (e : String × String) :
    Found iri (ds ++ [e]) (better iri best e) := by
  unfold Prefixes.better
  cases h with
  | nothing hnone =>
      by_cases hfits : Fits iri e.2
      · rw [if_pos ⟨startsWith_iff.mpr hfits, by simp⟩]
        apply Found.entry hfits
        · intro d hd hd'
          exact absurd hd' (hnone d hd)
        · simp
      · rw [if_neg fun h => hfits (startsWith_iff.mp h.1)]
        apply Found.nothing
        intro d hd
        rcases List.mem_append.mp hd with hold | hnew
        · exact hnone d hold
        · rw [List.mem_singleton.mp hnew]
          exact hfits
  | @entry front back d hd hbefore hbehind =>
      by_cases hlonger : Fits iri e.2 ∧ d.2.length < e.2.length
      · -- The new entry is longer than the best so far, and so than all that fit.
        have hsize := (hd.length_lt_iff hlonger.1).mp hlonger.2
        rw [if_pos ⟨startsWith_iff.mpr hlonger.1, by simpa using hlonger.2⟩]
        apply Found.entry hlonger.1
        · intro c hc hc'
          rcases List.mem_append.mp hc with hfront | hrest
          · exact Nat.lt_trans (hbefore c hfront hc') hsize
          · rcases List.mem_cons.mp hrest with rfl | hback
            · exact hsize
            · exact Nat.lt_of_le_of_lt (hbehind c hback hc') hsize
        · simp
      · rw [if_neg fun h => hlonger ⟨startsWith_iff.mp h.1, h.2 d rfl⟩, List.append_assoc,
          List.cons_append]
        apply Found.entry hd hbefore
        intro c hc hc'
        rcases List.mem_append.mp hc with hback | hnew
        · exact hbehind c hback hc'
        · obtain rfl := List.mem_singleton.mp hnew
          rw [← Nat.not_lt, ← hd.length_lt_iff hc']
          intro hlt
          exact hlonger ⟨hc', hlt⟩

/-- **The whole search** finds what there is. -/
theorem Found.foldl_better (h : Found iri ds best) (es : List (String × String)) :
    Found iri (ds ++ es) (es.foldl (Prefixes.better iri) best) := by
  induction es generalizing ds best with
  | nil =>
      rw [List.append_nil]
      exact h
  | cons e es ih =>
      have hnext := ih (h.better e)
      rw [List.append_assoc, List.singleton_append] at hnext
      exact hnext

/-- Nothing is found exactly if there is nothing that fits. -/
theorem Found.eq_none_iff (h : Found iri ds best) : best = none ↔ ∀ d ∈ ds, ¬Fits iri d.2 := by
  cases h with
  | nothing hnone => exact iff_of_true rfl hnone
  | @entry front back d hfits hbefore hbehind =>
      refine iff_of_false (by simp) ?_
      intro hnone
      exact hnone d (by simp) hfits

/-- What is found is the first declaration with a longest namespace. -/
theorem Found.eq_find? (h : Found iri ds best) :
    best = ds.find? fun d => decide (IsLongest ds iri d.2) := by
  symm
  cases h with
  | nothing hnone =>
      rw [List.find?_eq_none]
      intro d hd hlongest
      exact hnone d hd (of_decide_eq_true hlongest).fits
  | @entry front back d hfits hbefore hbehind =>
      rw [List.find?_eq_some_iff_append]
      refine ⟨decide_eq_true ⟨hfits, ?_⟩, front, back, rfl, ?_⟩
      · intro e he he'
        rcases List.mem_append.mp he with hfront | hrest
        · exact Nat.le_of_lt (hbefore e hfront he')
        · rcases List.mem_cons.mp hrest with rfl | hback
          · exact Nat.le_refl _
          · exact hbehind e hback he'
      · intro e he
        rw [Bool.not_eq_true', decide_eq_false_iff_not]
        intro hlongest
        exact Nat.not_lt.mpr (hlongest.longest d (by simp) hfits) (hbefore e he hlongest.fits)

variable {p p' : Prefixes}

theorem found_bestMatch? (p : Prefixes) (iri : String) : Found iri p.entries (p.bestMatch? iri) := by
  have hstart : Found iri [] none := .nothing (by simp)
  exact hstart.foldl_better p.entries

/-- **The best match** is the first declaration with a longest namespace. -/
theorem bestMatch?_eq_find? (p : Prefixes) (iri : String) :
    p.bestMatch? iri = p.entries.find? fun d => decide (IsLongest p.entries iri d.2) :=
  (found_bestMatch? p iri).eq_find?

/-! ## The order of the declarations -/

/-- Distinct namespaces leave no choice: the best match is the declaration with the longest one. -/
theorem bestMatch?_eq_some_iff (h : (p.entries.map Prod.snd).Nodup) :
    p.bestMatch? iri = some d ↔ d ∈ p.entries ∧ IsLongest p.entries iri d.2 := by
  have hfound : ∀ e, p.bestMatch? iri = some e → e ∈ p.entries ∧ IsLongest p.entries iri e.2 := by
    intro e he
    rw [bestMatch?_eq_find?] at he
    exact ⟨List.mem_of_find?_eq_some he, by simpa using List.find?_some he⟩
  refine ⟨hfound d, ?_⟩
  rintro ⟨hmem, hlongest⟩
  have hsome : p.bestMatch? iri ≠ none := by
    intro hnone
    exact (found_bestMatch? p iri).eq_none_iff.mp hnone d hmem hlongest.fits
  obtain ⟨e, he⟩ := Option.ne_none_iff_exists'.mp hsome
  obtain ⟨hmem', hlongest'⟩ := hfound e he
  -- Both are longest, so they have the same namespace, and it is declared once.
  have hns : e.2 = d.2 := by
    apply hlongest'.fits.eq_of_size_eq hlongest.fits
    exact Nat.le_antisymm (hlongest.longest e hmem' hlongest'.fits)
      (hlongest'.longest d hmem hlongest.fits)
  rw [he, List.inj_on_of_nodup_map h hmem' hmem hns]

/-- **Distinct namespaces may be declared in any order.** -/
theorem bestMatch?_eq_of_perm (hperm : p'.entries.Perm p.entries)
    (h : (p.entries.map Prod.snd).Nodup) (iri : String) : p'.bestMatch? iri = p.bestMatch? iri := by
  have h' : (p'.entries.map Prod.snd).Nodup := (hperm.map Prod.snd).nodup_iff.mpr h
  apply Option.ext
  intro d
  rw [bestMatch?_eq_some_iff h', bestMatch?_eq_some_iff h, isLongest_iff, isLongest_iff]
  simp only [hperm.mem_iff]

/-- So IRIs have the same short forms. -/
theorem compact_eq_of_perm (hperm : p'.entries.Perm p.entries)
    (h : (p.entries.map Prod.snd).Nodup) (iri : String) : p'.compact iri = p.compact iri := by
  rw [compact, compact, bestMatch?_eq_of_perm hperm h]

/-! ## Short forms -/

/-- **An IRI is compacted with the earliest of the longest namespaces that it starts with**, if there is
any. What is cut off ends where a character ends, and the rest of the IRI stays behind the name and a
colon. -/
theorem compact_by_longest (p : Prefixes) (iri : String) :
    (p.bestMatch? iri = none ↔ ∀ d ∈ p.entries, ¬Fits iri d.2) ∧
    (p.bestMatch? iri = p.entries.find? fun d => decide (IsLongest p.entries iri d.2)) ∧
    (p.bestMatch? iri = none → p.compact iri = iri) ∧
    ∀ name ns, p.bestMatch? iri = some (name, ns) →
      ns.rawEndPos.IsValid iri ∧ ∃ rest, iri = ns ++ rest ∧ p.compact iri = name ++ ":" ++ rest := by
  refine ⟨(found_bestMatch? p iri).eq_none_iff, bestMatch?_eq_find? p iri, ?_, ?_⟩
  · intro hnone
    rw [compact, hnone]
  · intro name ns hbest
    obtain ⟨rest, hiri, hcompact⟩ := exists_compact_eq_of_bestMatch? hbest
    refine ⟨?_, rest, hiri, hcompact⟩
    exact String.Pos.Raw.isValid_iff_exists_append.mpr ⟨ns, rest, hiri, rfl⟩

/-- Namespaces with characters of two and of three bytes, each a beginning of the next, one of them
empty and one declared twice. -/
def accentedNamespaces : Prefixes :=
  ofList [("", ""), ("a", "é"), ("b", "é€"), ("c", "é€"), ("d", "é€é€")]

/-- The earlier of two equal namespaces is taken, and the cut is behind the fifth byte. -/
theorem compact_by_longest_accented :
    accentedNamespaces.bestMatch? "é€xé€" = some ("b", "é€") ∧
    String.Pos.Raw.IsValid "é€xé€" ⟨5⟩ ∧ accentedNamespaces.compact "é€xé€" = "b:xé€" ∧
    empty.bestMatch? "é" = none ∧ empty.compact "é" = "é" := by
  obtain ⟨-, hfirst, -, hcut⟩ := compact_by_longest accentedNamespaces "é€xé€"
  obtain ⟨hnone, -, hsame, -⟩ := compact_by_longest empty "é"
  have hbest : accentedNamespaces.bestMatch? "é€xé€" = some ("b", "é€") := by
    rw [hfirst]
    decide
  have hempty : empty.bestMatch? "é" = none := hnone.mpr (by simp [empty])
  obtain ⟨hvalid, rest, hiri, hcompact⟩ := hcut _ _ hbest
  have hrest : rest = "xé€" := by
    have hsplit : "é€" ++ "xé€" = "é€" ++ rest := hiri
    exact (String.append_right_inj _).mp hsplit.symm
  rw [hrest] at hcompact
  exact ⟨hbest, hvalid, hcompact, hempty, hsame hempty⟩

end QueryGraph.Prefixes
