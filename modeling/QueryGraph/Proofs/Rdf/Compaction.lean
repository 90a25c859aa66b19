import QueryGraph.Rdf.Prefixes

/-!
# `Proofs.Rdf.Compaction` — a short form leads back to its IRI

An IRI is compacted with the longest namespace that it starts with. Which of the namespaces this is
cannot be told from the short form, but it need not be: the short form names its prefix, and a prefix
has one namespace. What the name is can be told if no name has a colon in it, since then the first
colon ends it, however many there are behind.

## Contents
- `cutAtColon` — a text cut at its first colon.
- `foldl_better_eq_some`, `mem_of_bestMatch?` — the best match is a declaration whose namespace fits.
- `exists_compact_eq_of_bestMatch?` — what an IRI and its short form have in common.
- `expand?`, `expand?_compact` — the IRI that a short form stands for; expanding undoes compacting.
- `isPlain_ofList`, `expand?_compact_of_declared` — all ways to declare prefixes, and the main statement.
-/

namespace QueryGraph

/-! ## The first colon -/

/-- A text cut at its first colon, which belongs to neither part. -/
def cutAtColon (text : String) : Option (String × String) :=
  match text.toList.dropWhile (· ≠ ':') with
  | [] => none
  | _ :: rest => some (String.ofList (text.toList.takeWhile (· ≠ ':')), String.ofList rest)

theorem cutAtColon_append {name : String} (h : ':' ∉ name.toList) (rest : String) :
    cutAtColon (name ++ ":" ++ rest) = some (name, rest) := by
  have hname : ∀ c ∈ name.toList, decide (c ≠ ':') = true := by
    intro c hc
    rw [decide_eq_true_eq]
    rintro rfl
    exact h hc
  have htext : (name ++ ":" ++ rest).toList = name.toList ++ ':' :: rest.toList := by
    simp [String.toList_append]
  rw [cutAtColon, htext, List.dropWhile_append_of_pos hname, List.takeWhile_append_of_pos hname,
    List.dropWhile_cons_of_neg (by simp), List.takeWhile_cons_of_neg (by simp), List.append_nil,
    String.ofList_toList]
  show some (name, String.ofList rest.toList) = _
  rw [String.ofList_toList]

namespace Prefixes

/-! ## The best match -/

theorem startsWith_iff {iri ns : String} : startsWith iri ns = true ↔ ∃ rest, iri = ns ++ rest := by
  rw [startsWith, List.isPrefixOf_iff_prefix]
  constructor
  · rintro ⟨cs, hcs⟩
    refine ⟨String.ofList cs, String.toList_injective ?_⟩
    rw [String.toList_append, String.toList_ofList, hcs]
  · rintro ⟨rest, rfl⟩
    rw [String.toList_append]
    exact List.prefix_append _ _

/-- A step of the search keeps what it has or takes an entry that fits. -/
theorem better_cases (iri : String) (best : Option (String × String)) (d : String × String) :
    better iri best d = best ∨ better iri best d = some d ∧ startsWith iri d.2 = true := by
  unfold better
  split
  case isTrue h => exact Or.inr ⟨rfl, h.1⟩
  case isFalse => exact Or.inl rfl

/-- What the search ends with is what it began with, or an entry that fits. -/
theorem foldl_better_eq_some {iri : String} {ds : List (String × String)}
    {best : Option (String × String)} {d : String × String}
    (h : ds.foldl (better iri) best = some d) :
    best = some d ∨ d ∈ ds ∧ startsWith iri d.2 = true := by
  induction ds generalizing best with
  | nil => exact Or.inl h
  | cons first ds ih =>
      rcases ih h with hbest | ⟨hmem, hfits⟩
      · rcases better_cases iri best first with hkept | ⟨htaken, hfits⟩
        · exact Or.inl (hkept ▸ hbest)
        · obtain rfl := Option.some.inj (htaken.symm.trans hbest)
          exact Or.inr ⟨List.mem_cons_self, hfits⟩
      · exact Or.inr ⟨List.mem_cons_of_mem _ hmem, hfits⟩

variable {p : Prefixes} {iri : String}

/-- **The best match** is a declaration, and the IRI starts with its namespace. -/
theorem mem_of_bestMatch? {d : String × String} (h : p.bestMatch? iri = some d) :
    d ∈ p.entries ∧ startsWith iri d.2 = true := by
  rcases foldl_better_eq_some h with hnone | hfound
  · exact absurd hnone (by simp)
  · exact hfound

theorem get?_of_mem {name ns : String} (h : (name, ns) ∈ p.entries) : p.get? name = some ns :=
  (Entries.lookup_eq_some_iff_mem p.nodup).mpr h

/-- **A short form** is the name of the best match, a colon and what follows its namespace. -/
theorem exists_compact_eq_of_bestMatch? {name ns : String} (h : p.bestMatch? iri = some (name, ns)) :
    ∃ rest, iri = ns ++ rest ∧ p.compact iri = name ++ ":" ++ rest := by
  obtain ⟨rest, rfl⟩ := startsWith_iff.mp (mem_of_bestMatch? h).2
  have hdrop : String.ofList ((ns ++ rest).toList.drop ns.length) = rest := by
    rw [String.toList_append, ← String.length_toList, List.drop_left, String.ofList_toList]
  refine ⟨rest, rfl, ?_⟩
  rw [compact, h]
  show name ++ ":" ++ String.ofList ((ns ++ rest).toList.drop ns.length) = _
  rw [hdrop]

/-- The name and the namespace are those of a declaration. -/
theorem exists_compact_eq (h : p.bestMatch? iri ≠ none) :
    ∃ name ns rest, (name, ns) ∈ p.entries ∧ p.compact iri = name ++ ":" ++ rest ∧
      iri = ns ++ rest := by
  obtain ⟨⟨name, ns⟩, hbest⟩ := Option.ne_none_iff_exists'.mp h
  obtain ⟨rest, hiri, hcompact⟩ := exists_compact_eq_of_bestMatch? hbest
  exact ⟨name, ns, rest, (mem_of_bestMatch? hbest).1, hcompact, hiri⟩

/-! ## Expanding -/

/-- The IRI that a short form stands for: the namespace of the prefix before the first colon, then what
is behind the colon. -/
def expand? (p : Prefixes) (short : String) : Option String := do
  let (name, rest) ← cutAtColon short
  let ns ← p.get? name
  return ns ++ rest

/-- No declared name has a colon in it. -/
def IsPlain (p : Prefixes) : Prop := ∀ d ∈ p.entries, ':' ∉ d.1.toList

/-- **Expanding undoes compacting.** -/
theorem expand?_compact (hp : p.IsPlain) (h : p.bestMatch? iri ≠ none) :
    p.expand? (p.compact iri) = some iri := by
  obtain ⟨name, ns, rest, hmem, hcompact, rfl⟩ := exists_compact_eq h
  have hcut : cutAtColon (p.compact (ns ++ rest)) = some (name, rest) := by
    rw [hcompact]
    exact cutAtColon_append (hp _ hmem) rest
  simp only [expand?, hcut, get?_of_mem hmem, Option.bind_eq_bind, Option.bind_some, Option.pure_def]

/-! ## Declarations -/

theorem mem_names_insert {p : Prefixes} {name ns other : String}
    (h : other ∈ (p.insert name ns).entries.map Prod.fst) :
    other = name ∨ other ∈ p.entries.map Prod.fst := by
  rw [insert, Entries.map_fst_set] at h
  split at h
  · exact Or.inr h
  · rcases List.mem_append.mp h with hold | hnew
    · exact Or.inr hold
    · exact Or.inl (List.mem_singleton.mp hnew)

/-- Only declared names are there. -/
theorem mem_names_ofList {ds : List (String × String)} {name : String}
    (h : name ∈ (ofList ds).entries.map Prod.fst) : name ∈ ds.map Prod.fst := by
  -- By induction on the declarations, behind any prefixes that are there.
  have hfold : ∀ (ds : List (String × String)) (p : Prefixes),
      name ∈ (ds.foldl (fun p d => p.insert d.1 d.2) p).entries.map Prod.fst →
      name ∈ p.entries.map Prod.fst ∨ name ∈ ds.map Prod.fst := by
    intro ds
    induction ds with
    | nil => exact fun p hname => Or.inl hname
    | cons d ds ih =>
        intro p hname
        rcases ih _ hname with hinsert | hlater
        · rcases mem_names_insert hinsert with rfl | hold
          · exact Or.inr List.mem_cons_self
          · exact Or.inl hold
        · exact Or.inr (List.mem_cons_of_mem _ hlater)
  rcases hfold ds empty h with hempty | hdeclared
  · exact absurd hempty List.not_mem_nil
  · exact hdeclared

theorem isPlain_ofList {ds : List (String × String)} (h : ∀ d ∈ ds, ':' ∉ d.1.toList) :
    (ofList ds).IsPlain := by
  intro d hd
  obtain ⟨d', hd', hname⟩ := List.mem_map.mp (mem_names_ofList (List.mem_map_of_mem hd))
  rw [← hname]
  exact h d' hd'

/-- **Compacting can be undone**, whatever has been declared in whatever order, as long as no name has a
colon in it. So two IRIs that both lie in some namespace never have the same short form. -/
theorem expand?_compact_of_declared {ds : List (String × String)}
    (hds : ∀ d ∈ ds, ':' ∉ d.1.toList) :
    (∀ iri, (ofList ds).bestMatch? iri ≠ none →
      (ofList ds).expand? ((ofList ds).compact iri) = some iri) ∧
    ∀ iri iri', (ofList ds).bestMatch? iri ≠ none → (ofList ds).bestMatch? iri' ≠ none →
      (ofList ds).compact iri = (ofList ds).compact iri' → iri = iri' := by
  have hexpand : ∀ iri, (ofList ds).bestMatch? iri ≠ none →
      (ofList ds).expand? ((ofList ds).compact iri) = some iri :=
    fun iri => expand?_compact (isPlain_ofList hds)
  refine ⟨hexpand, fun iri iri' h h' hsame => ?_⟩
  have hexpand' := hexpand iri' h'
  rw [← hsame, hexpand iri h] at hexpand'
  exact Option.some.inj hexpand'

/-- Namespaces that are empty, shared, declared anew and contained in one another. -/
def nestedNamespaces : List (String × String) :=
  [("", ""), ("a", "http://x/y"), ("b", "http://x/"), ("c", "http://x/y:"), ("a", "http://x/")]

/-- Of five IRIs none is mistaken for another, with colons in the local part of one of them. -/
theorem expand?_compact_nestedNamespaces :
    (∀ d ∈ nestedNamespaces, ':' ∉ d.1.toList) ∧
    (ofList nestedNamespaces).compact "http://x/y:z:1" = "c:z:1" ∧
    (ofList nestedNamespaces).compact "http://x/z:1" = "a:z:1" ∧
    (ofList nestedNamespaces).compact "z:1" = ":z:1" ∧
    (ofList nestedNamespaces).expand? "c:z:1" = some "http://x/y:z:1" ∧
    (ofList nestedNamespaces).expand? "a:z:1" = some "http://x/z:1" ∧
    (ofList nestedNamespaces).expand? ":z:1" = some "z:1" := by
  have hplain : ∀ d ∈ nestedNamespaces, ':' ∉ d.1.toList := by decide
  obtain ⟨hexpand, -⟩ := expand?_compact_of_declared hplain
  have hshort : (ofList nestedNamespaces).compact "http://x/y:z:1" = "c:z:1" := by decide
  have hshort' : (ofList nestedNamespaces).compact "http://x/z:1" = "a:z:1" := by decide
  have hshort'' : (ofList nestedNamespaces).compact "z:1" = ":z:1" := by decide
  refine ⟨hplain, hshort, hshort', hshort'', ?_, ?_, ?_⟩
  · rw [← hshort]
    exact hexpand _ (by decide)
  · rw [← hshort']
    exact hexpand _ (by decide)
  · rw [← hshort'']
    exact hexpand _ (by decide)

end Prefixes

end QueryGraph
