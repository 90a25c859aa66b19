import QueryGraph.Command.Arguments
import QueryGraph.Proofs.Outcome

/-!
# `Proofs.Command.Items` — the items of a command line

A command line gives flags, values for options, inputs, one after the other. These are its items. They are
taken up one by one in a draft, until one cannot be, or is answered at once. A draft that has taken up items
holds what they give and nothing else, so the options of a run can be read off the items (`request_cases`),
and whatever depends on the options can be stated about them.

## Contents
- `Item`, `Draft.take` — an item, and how it is taken up.
- `requestOf` — what is asked for in the end.
- `Draft.Holds`, `Draft.Holds.take` — a draft holds the items that it has taken up.
- `Options.SaidBy`, `request_cases` — the options of a run are those that its items give.
-/

namespace QueryGraph.Command

/-! ## Items -/

/-- One thing that a command line gives. -/
inductive Item where
  /-- A flag is given. -/
  | flag (flag : Flag)
  /-- An option gets a value. -/
  | value (setting : Setting) (text : String)
  /-- A file is the input. -/
  | input (path : String)
  deriving DecidableEq, Repr

/-- The flags that are answered at once. -/
def Flag.answer? : Flag → Option Request
  | .version => some .version
  | .help => some .help
  | _ => none

/-- The answer that an item asks for. -/
def Item.answer? : Item → Option Request
  | .flag f => f.answer?
  | _ => none

/-- Why no more items are taken up. -/
inductive Stop where
  | fault (error : ArgumentError)
  | answer (request : Request)

/-- Takes up one more item. -/
def Draft.take (d : Draft) : Item → Except Stop Draft
  | .flag flag =>
    match flag.answer? with
    | some request => .error (.answer request)
    | none =>
      if flag ∈ d.flags then .error (.fault (.repeatedOption (Switch.flag flag).name))
      else .ok { d with flags := flag :: d.flags }
  | .value setting text => (d.set setting text).mapError .fault
  | .input path => (d.setInput path).mapError .fault

/-- What is asked for when all items have been taken up, or no more are. -/
def requestOf : Except Stop Draft → Except ArgumentError Request
  | .error (.fault e) => .error e
  | .error (.answer r) => .ok r
  | .ok d => d.finish.map .run

/-! ## Answers -/

/-- An item that is answered at once stops the reading. -/
theorem Draft.take_of_answer {d : Draft} {item : Item} {r : Request} (h : item.answer? = some r) :
    d.take item = .error (.answer r) := by
  cases item with
  | flag f =>
      have hf : f.answer? = some r := h
      show (match f.answer? with
        | some request => Except.error (Stop.answer request)
        | none => _) = _
      rw [hf]
  | value setting text => cases h
  | input path => cases h

theorem Draft.take_flag {d : Draft} {f : Flag} (h : f.answer? = none) :
    d.take (.flag f) =
      if f ∈ d.flags then .error (.fault (.repeatedOption (Switch.flag f).name))
      else .ok { d with flags := f :: d.flags } := by
  show (match f.answer? with
    | some request => Except.error (Stop.answer request)
    | none => _) = _
  rw [h]

theorem Draft.answer?_of_take {d : Draft} {item : Item} {r : Request}
    (h : d.take item = .error (.answer r)) : item.answer? = some r := by
  cases item with
  | flag f =>
      cases hanswer : f.answer? with
      | none =>
          rw [take_flag hanswer] at h
          split at h <;> cases h
      | some r' =>
          have hitem : (Item.flag f).answer? = some r' := hanswer
          rw [take_of_answer hitem] at h
          cases h
          exact hitem
  | value s text =>
      change (d.set s text).mapError Stop.fault = _ at h
      cases hset : d.set s text <;> rw [hset] at h <;> cases h
  | input path =>
      change (d.setInput path).mapError Stop.fault = _ at h
      cases hset : d.setInput path <;> rw [hset] at h <;> cases h

/-- Behind an item that is answered at once, none is taken up. -/
theorem foldlM_take_ne_ok {items : List Item} (h : ∃ item ∈ items, item.answer?.isSome)
    (d d' : Draft) : items.foldlM Draft.take d ≠ .ok d' := by
  intro hok
  induction items generalizing d with
  | nil =>
      obtain ⟨item, hitem, -⟩ := h
      cases hitem
  | cons head items ih =>
      obtain ⟨d₁, htake, hrest⟩ := foldlM_cons_eq_ok_iff.mp hok
      obtain ⟨item, hitem, hanswer⟩ := h
      rcases List.mem_cons.mp hitem with rfl | hmem
      · obtain ⟨r, hr⟩ := Option.isSome_iff_exists.mp hanswer
        rw [Draft.take_of_answer hr] at htake
        cases htake
      · exact ih ⟨item, hmem, hanswer⟩ d₁ hrest

/-- Items that are answered get the first answer that one of them asks for. -/
theorem findSome?_answer? {items : List Item} {d : Draft} {r : Request}
    (h : items.foldlM Draft.take d = .error (.answer r)) : items.findSome? Item.answer? = some r := by
  induction items generalizing d with
  | nil => cases h
  | cons item items ih =>
      rw [List.foldlM_cons] at h
      rw [List.findSome?_cons]
      cases htake : d.take item with
      | error stop =>
          rw [htake] at h
          cases h
          rw [Draft.answer?_of_take htake]
      | ok d' =>
          rw [htake] at h
          cases hanswer : item.answer? with
          | some r' =>
              rw [Draft.take_of_answer hanswer] at htake
              cases htake
          | none => exact ih h

theorem exists_answer {items : List Item} {d : Draft} {r : Request}
    (h : items.foldlM Draft.take d = .error (.answer r)) : ∃ item ∈ items, item.answer?.isSome := by
  obtain ⟨item, hitem, hanswer⟩ := List.exists_of_findSome?_eq_some (findSome?_answer? h)
  exact ⟨item, hitem, Option.isSome_iff_exists.mpr ⟨r, hanswer⟩⟩

/-! ## What a draft holds -/

/-- The annotation predicate that an item gives. -/
def Item.annotationPredicate? : Item → Option String
  | .value .annotationPredicate iri => some iri
  | _ => none

/-- The draft holds just what the items give. -/
structure Draft.Holds (d : Draft) (items : List Item) : Prop where
  input (path : String) : d.input = some path ↔ .input path ∈ items
  output (path : String) : d.output = some path ↔ .value .output path ∈ items
  format (name : String) : d.format = some name ↔ .value .format name ∈ items
  annotationPredicates : d.annotationPredicates = items.filterMap Item.annotationPredicate?
  flags (f : Flag) : f ∈ d.flags ↔ .flag f ∈ items

theorem Draft.holds_empty : Draft.empty.Holds [] where
  input _ := by simp [empty]
  output _ := by simp [empty]
  format _ := by simp [empty]
  annotationPredicates := rfl
  flags _ := by simp [empty]

/-- An option or the input that can be given once only, and has not been given before. -/
theorem some_eq_iff_mem_append {old : Option String} {items : List Item} {say : String → Item}
    (hsay : Function.Injective say) (hold : ∀ text, old = some text ↔ say text ∈ items)
    (hnone : ¬old.isSome = true) (text path : String) :
    some text = some path ↔ say path ∈ items ++ [say text] := by
  have hnew : say path ∉ items := by
    intro hmem
    rw [(hold path).mpr hmem] at hnone
    exact hnone rfl
  rw [List.mem_append, or_iff_right hnew, List.mem_singleton, hsay.eq_iff, Option.some.injEq, eq_comm]

theorem filterMap_append_of_none {items : List Item} {item : Item}
    (h : item.annotationPredicate? = none) :
    (items ++ [item]).filterMap Item.annotationPredicate? =
      items.filterMap Item.annotationPredicate? := by
  rw [List.filterMap_append, List.filterMap_cons_none h, List.filterMap_nil, List.append_nil]

/-- **A draft that takes up an item holds it**, and what it has held before. -/
theorem Draft.Holds.take {d d' : Draft} {items : List Item} {item : Item} (h : d.Holds items)
    (htake : d.take item = .ok d') : d'.Holds (items ++ [item]) := by
  obtain ⟨hinput, houtput, hformat, hpredicates, hflags⟩ := h
  -- One field changes with each kind of item; the new item has no bearing on the others.
  cases item with
  | flag f =>
      cases hanswer : f.answer? with
      | some r =>
          have hitem : (Item.flag f).answer? = some r := hanswer
          rw [take_of_answer hitem] at htake
          cases htake
      | none =>
          rw [take_flag hanswer] at htake
          split at htake
          · cases htake
          · cases htake
            refine ⟨by simpa, by simpa, by simpa, hpredicates.trans (filterMap_append_of_none rfl).symm,
              fun g => ?_⟩
            simp [hflags, or_comm]
  | value s text =>
      have hset : d.set s text = .ok d' := mapError_eq_ok_iff.mp htake
      unfold set at hset
      cases s with
      | output =>
          dsimp only at hset
          split at hset
          · cases hset
          · split at hset
            · cases hset
            · rename_i hnone
              cases hset
              have hsay : Function.Injective (Item.value .output) := fun _ _ h => (Item.value.inj h).2
              exact ⟨by simpa, some_eq_iff_mem_append hsay houtput hnone text, by simpa,
                hpredicates.trans (filterMap_append_of_none rfl).symm, by simpa⟩
      | format =>
          dsimp only at hset
          split at hset
          · cases hset
          · rename_i hnone
            cases hset
            have hsay : Function.Injective (Item.value .format) := fun _ _ h => (Item.value.inj h).2
            exact ⟨by simpa, by simpa, some_eq_iff_mem_append hsay hformat hnone text,
              hpredicates.trans (filterMap_append_of_none rfl).symm, by simpa⟩
      | annotationPredicate =>
          cases hset
          refine ⟨by simpa, by simpa, by simpa, ?_, by simpa⟩
          rw [List.filterMap_append, ← hpredicates]
          rfl
  | input path =>
      have hset : d.setInput path = .ok d' := mapError_eq_ok_iff.mp htake
      unfold setInput at hset
      split at hset
      · cases hset
      · rename_i hnone
        split at hset
        · cases hset
        · cases hset
          have hsay : Function.Injective Item.input := fun _ _ h => Item.input.inj h
          exact ⟨some_eq_iff_mem_append hsay hinput hnone path, by simpa, by simpa,
            hpredicates.trans (filterMap_append_of_none rfl).symm, by simpa⟩

/-- A draft that takes up items holds them. -/
theorem Draft.Holds.foldlM_take {d d' : Draft} {items others : List Item} (h : d.Holds items)
    (hfold : others.foldlM Draft.take d = .ok d') : d'.Holds (items ++ others) := by
  induction others generalizing d items with
  | nil =>
      cases hfold
      rw [List.append_nil]
      exact h
  | cons item others ih =>
      obtain ⟨d₁, htake, hrest⟩ := foldlM_cons_eq_ok_iff.mp hfold
      rw [List.append_cons]
      exact ih (h.take htake) hrest

/-- **The options of a run are what the items of its command line give**, and they give nothing else. -/
structure Options.SaidBy (o : Options) (items : List Item) : Prop where
  input (path : String) : .input path ∈ items ↔ o.input = path
  output (path : String) : .value .output path ∈ items ↔ o.output = some path
  format (name : String) : .value .format name ∈ items → o.format = name
  /-- The format is JSON unless another is asked for. -/
  defaultFormat : (∀ name, .value .format name ∉ items) → o.format = "json"
  annotationPredicates : o.annotationPredicates = items.filterMap Item.annotationPredicate?
  compact : o.compact = decide (.flag .compact ∈ items)
  noDefaultAnnotations : o.noDefaultAnnotations = decide (.flag .noDefaultAnnotations ∈ items)
  showPrefixes : o.showPrefixes = decide (.flag .showPrefixes ∈ items)
  verbose : o.verbose = decide (.flag .verbose ∈ items)
  quiet : o.quiet = decide (.flag .quiet ∈ items)
  /-- No flag is given that is answered at once. -/
  answer? (item : Item) : item ∈ items → item.answer? = none

theorem Draft.Holds.saidBy {d : Draft} {items : List Item} {o : Options} (h : d.Holds items)
    (hfinish : d.finish = .ok o) (hanswer : ∀ item ∈ items, item.answer? = none) : o.SaidBy items := by
  unfold finish at hfinish
  split at hfinish
  · cases hfinish
  · rename_i input hinput
    cases hfinish
    refine ⟨fun path => ?_, fun path => (h.output path).symm, fun name hname => ?_, fun hnone => ?_,
      h.annotationPredicates, ?_, ?_, ?_, ?_, ?_, hanswer⟩
    · rw [← h.input, hinput, Option.some.injEq]
    · rw [(h.format name).mpr hname]
      rfl
    · have hformat : d.format = none :=
        Option.eq_none_iff_forall_ne_some.mpr fun name hname => hnone name ((h.format name).mp hname)
      rw [hformat]
      rfl
    all_goals exact decide_eq_decide.mpr (h.flags _)

theorem Item.answer?_ne_run (item : Item) (o : Options) : item.answer? ≠ some (.run o) := by
  cases item with
  | flag f => cases f <;> simp [answer?, Flag.answer?]
  | value s text => simp [answer?]
  | input path => simp [answer?]

/-- **What items ask for** is a run with the options that they give, or the first answer that one of them
asks for. -/
theorem request_cases {items : List Item} {r : Request}
    (h : requestOf (items.foldlM Draft.take .empty) = .ok r) :
    (∃ o : Options, r = .run o ∧ o.SaidBy items) ∨ items.findSome? Item.answer? = some r := by
  cases hfold : items.foldlM Draft.take .empty with
  | error stop =>
      rw [hfold] at h
      cases stop with
      | fault e => cases h
      | answer r' =>
          cases h
          exact Or.inr (findSome?_answer? hfold)
  | ok d =>
      rw [hfold] at h
      have hholds : d.Holds ([] ++ items) := Draft.holds_empty.foldlM_take hfold
      obtain ⟨o, hfinish, rfl⟩ := map_eq_ok_iff.mp h
      refine Or.inl ⟨o, rfl, hholds.saidBy hfinish fun item hitem => ?_⟩
      exact Option.not_isSome_iff_eq_none.mp fun hanswer =>
        foldlM_take_ne_ok ⟨item, hitem, hanswer⟩ _ _ hfold

/-- **A run has the options that its items give.** -/
theorem saidBy_of_request {items : List Item} {o : Options}
    (h : requestOf (items.foldlM Draft.take .empty) = .ok (.run o)) : o.SaidBy items := by
  rcases request_cases h with ⟨o', ho, hsaid⟩ | hanswer
  · cases ho
    exact hsaid
  · obtain ⟨item, -, hrun⟩ := List.exists_of_findSome?_eq_some hanswer
    exact absurd hrun (item.answer?_ne_run o)

end QueryGraph.Command
