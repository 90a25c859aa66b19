import QueryGraph.Proofs.Json.Passing
import QueryGraph.Proofs.Sparql.Sections

/-!
# `Proofs.Sparql.Agreement` — a query is loaded as if its text were decoded first

A query is loaded without decoding its text as a whole: members that are no sections are skipped, and the
prefixes are declared one by one. If the text can be decoded all the same, both come to the same result.
The two run side by side: wherever the decoder has read a value, the loader has left the same rest of the
text behind, and its query is made up of the values read so far (`Follows`).

Only the prefixes may differ, since an object that is decoded keeps the last of several members of one
name, whether it is a string or not. And the loader may refuse what the decoder takes: a section that is
named again, and a text that does not look like a query.

## Contents
- `Follows`, `Follows.bind` — an outcome that goes with that of the decoder.
- `follows_readElements`, `follows_readMembers` — loops that go side by side.
- `Query.MadeOf` — a query that is made up of some sections, apart from its prefixes.
- `Json.Value.LooksLikeQuery` — an object, or an array that is not too long.
- `Prefixes.exists_read_of_readValue`, `Section.exists_read_of_readValue` — one section.
- `Query.follows_readMember`, `Query.follows_readSections` — members, and the places of an array.
- `Query.ofText_of_decode` — the main statement.
-/

namespace QueryGraph

open Json

/-! ## Side by side -/

/-- **One outcome goes with another**: it leaves the same rest, with a state that goes with the other one,
or it has failed for a good reason. -/
inductive Follows {σ τ : Type} (R : σ → τ → Prop) (Excused : Fault → Prop) :
    Except Fault (Scanned σ) → Scanned τ → Prop
  | ok {s : σ} {t : τ} (rest : List Char) (h : R s t) : Follows R Excused (.ok (s, rest)) (t, rest)
  | fault {f : Fault} (y : Scanned τ) (h : Excused f) : Follows R Excused (.error f) y

section Loops

variable {σ τ σ' τ' : Type} {R : σ → τ → Prop} {R' : σ' → τ' → Prop} {Excused : Fault → Prop}

theorem Follows.bind {x : Except Fault (Scanned σ)} {t : τ} {rest : List Char}
    {next : Scanned σ → Except Fault (Scanned σ')} {y : Scanned τ'} (hx : Follows R Excused x (t, rest))
    (hnext : ∀ s, R s t → Follows R' Excused (next (s, rest)) y) : Follows R' Excused (x >>= next) y := by
  cases hx with
  | ok rest h => exact hnext _ h
  | fault y h => exact .fault _ h

/-- Where there is no reason to fail, there is an outcome. -/
theorem Follows.exists_eq_ok {x : Except Fault (Scanned σ)} {t : τ} {rest : List Char}
    (hx : Follows R (fun _ => False) x (t, rest)) : ∃ s, x = .ok (s, rest) ∧ R s t := by
  cases hx with
  | ok rest h => exact ⟨_, rfl, h⟩
  | fault y h => exact h.elim

/-- The same run, with another state to go with and other reasons to fail. -/
theorem Follows.imp {ρ : Type} {S : σ → ρ → Prop} {Excused' : Fault → Prop}
    {x : Except Fault (Scanned σ)} {t : τ} {u : ρ} {rest : List Char}
    (hx : Follows R Excused x (t, rest)) (hstate : ∀ s, R s t → S s u)
    (hfault : ∀ f, Excused f → Excused' f) : Follows S Excused' x (u, rest) := by
  cases hx with
  | ok rest h => exact .ok rest (hstate _ h)
  | fault y h => exact .fault _ (hfault _ h)

variable {limit n : Nat} {first : Bool} {s : σ} {t t' : τ} {cs rest : List Char}

/-- **Two loops over elements go side by side** if their steps do, in a text of limited length. -/
theorem follows_readElements {step : σ → Reader σ} {step' : τ → Reader τ}
    (hstep : ∀ s t cs t' rest, R s t → cs.length ≤ limit → step' t cs = .ok (t', rest) →
      rest.length ≤ limit ∧ Follows R Excused (step s cs) (t', rest))
    (hs : R s t) (hcs : cs.length ≤ limit) (h : readElements step' n first t cs = .ok (t', rest)) :
    Follows R Excused (readElements step n first s cs) (t', rest) := by
  induction n generalizing first s t cs with
  | zero => exact absurd h (by simp [readElements])
  | succ n ih =>
      rw [readElements] at h ⊢
      obtain ⟨⟨more, found⟩, hnext, h⟩ := bind_eq_ok_iff.mp h
      rw [hnext, ok_bind]
      cases more with
      | false =>
          cases h
          exact .ok rest hs
      | true =>
          obtain ⟨⟨t₁, behind⟩, hread, h⟩ := bind_eq_ok_iff.mp h
          have hfound := Nat.le_trans (length_le_of_nextElement hnext) hcs
          obtain ⟨hbehind, hfollows⟩ := hstep s t found t₁ behind hs hfound hread
          exact hfollows.bind fun s₁ hs₁ => ih hs₁ hbehind h

/-- **Two loops over members go side by side** if their steps do, in a text of limited length. -/
theorem follows_readMembers {step : σ → String → Reader σ} {step' : τ → String → Reader τ}
    (hstep : ∀ s t name cs t' rest, R s t → (∀ ahead, colon cs = .ok ahead → ahead.length ≤ limit) →
      step' t name cs = .ok (t', rest) →
      rest.length ≤ limit ∧ Follows R Excused (step s name cs) (t', rest))
    (hs : R s t) (hcs : cs.length ≤ limit) (h : readMembers step' n first t cs = .ok (t', rest)) :
    Follows R Excused (readMembers step n first s cs) (t', rest) := by
  induction n generalizing first s t cs with
  | zero => exact absurd h (by simp [readMembers])
  | succ n ih =>
      rw [readMembers] at h ⊢
      obtain ⟨⟨name, found⟩, hnext, h⟩ := bind_eq_ok_iff.mp h
      rw [hnext, ok_bind]
      cases name with
      | none =>
          cases h
          exact .ok rest hs
      | some name =>
          obtain ⟨⟨t₁, behind⟩, hread, h⟩ := bind_eq_ok_iff.mp h
          have hahead : ∀ ahead, colon found = .ok ahead → ahead.length ≤ limit := by
            intro ahead hcolon
            exact Nat.le_trans (toNextValue_of_nextName hnext hcolon).1 hcs
          obtain ⟨hbehind, hfollows⟩ := hstep s t name found t₁ behind hs hahead hread
          exact hfollows.bind fun s₁ hs₁ => ih hs₁ hbehind h

end Loops

variable {fuel room : Nat} {cs rest : List Char}

/-! ## Prefix declarations -/

/-- What can be decoded can be read as prefix declarations. -/
theorem Prefixes.exists_read_of_readValue {v : Value} (h : readValue fuel room cs = .ok (v, rest))
    (hcs : cs.length ≤ fuel) : ∃ p, read fuel room cs = .ok (p, rest) := by
  rw [read]
  split
  case h_1 inner hblanks =>
      obtain ⟨room, vs, rfl, rfl, hloop⟩ := exists_elements_of_readValue hblanks h
      have hinner := Nat.le_trans (Nat.le_of_lt (length_lt_of_skipBlanks hblanks)) hcs
      -- Only the rest of the text is compared, and nothing is refused.
      have hfollows : Follows (fun _ _ => True) (fun _ => False)
          (readElements (skipElement fuel) fuel true () inner) (vs, rest) := by
        refine follows_readElements ?_ trivial hinner hloop
        intro _ vs cs vs' rest _ hcs helement
        obtain ⟨⟨v, behind⟩, hvalue, helement⟩ := bind_eq_ok_iff.mp helement
        cases helement
        refine ⟨Nat.le_trans (length_le_of_readValue hvalue) hcs, ?_⟩
        rw [skipElement, skipValue_of_readValue hvalue hcs]
        exact .ok _ trivial
      obtain ⟨_, hskip, -⟩ := hfollows.exists_eq_ok
      exact ⟨empty, by simp only [hskip]; rfl⟩
  case h_2 inner hblanks =>
      obtain ⟨room, ms, rfl, rfl, hloop⟩ := exists_members_of_readValue hblanks h
      have hinner := Nat.le_trans (Nat.le_of_lt (length_lt_of_skipBlanks hblanks)) hcs
      have hfollows : Follows (fun _ _ => True) (fun _ => False)
          (readMembers (addDeclaration (readValue fuel room)) fuel true empty inner) (ms, rest) := by
        refine follows_readMembers ?_ trivial hinner hloop
        intro p ms name cs ms' rest _ hahead hmember
        obtain ⟨ahead, hcolon, hmember⟩ := bind_eq_ok_iff.mp hmember
        obtain ⟨⟨v, behind⟩, hvalue, hmember⟩ := bind_eq_ok_iff.mp hmember
        cases hmember
        refine ⟨Nat.le_trans (length_le_of_readValue hvalue) (hahead ahead hcolon), ?_⟩
        rw [addDeclaration, hcolon, ok_bind, hvalue, ok_bind]
        exact .ok _ trivial
      obtain ⟨p, hread, -⟩ := hfollows.exists_eq_ok
      exact ⟨p, hread⟩
  case h_3 =>
      rw [readValue_skipBlanks, h]
      exact ⟨empty, rfl⟩

/-! ## Sections -/

/-- **A query is made up of some sections**, apart from its prefixes. -/
def Query.MadeOf (q : Query) (found : Section → Option Value) : Prop :=
  q = { ofSections found with prefixes := q.prefixes }

theorem Query.MadeOf.withPrefixes {q : Query} {found : Section → Option Value} (hq : q.MadeOf found)
    (p : Prefixes) : Query.MadeOf { q with prefixes := p } found := by
  rw [MadeOf] at hq ⊢
  rw [hq]

/-- Without any sections there is nothing in a query. -/
theorem Query.madeOf_empty {found : Section → Option Value} (h : ∀ s, found s = none) :
    empty.MadeOf found := by
  obtain rfl : found = fun _ => none := funext h
  rfl

/-- One more section is entered. -/
theorem Section.madeOf_enter {q : Query} {found : Section → Option Value} (hq : q.MadeOf found)
    (s : Section) (v : Value) : (s.enter q v).MadeOf (withSection found s v) := by
  rw [Query.MadeOf] at hq ⊢
  rw [hq]
  cases s with
  | projection => cases v <;> rfl
  | queryType | kind | prefixes | patterns => rfl

/-- **A section is read** from what can be decoded, and entered into the query. -/
theorem Section.exists_read_of_readValue {v : Value} {q : Query} {found : Section → Option Value}
    (h : readValue fuel room cs = .ok (v, rest)) (hcs : cs.length ≤ fuel) (hq : q.MadeOf found)
    (s : Section) :
    ∃ q', s.read fuel room q cs = .ok (q', rest) ∧ q'.MadeOf (withSection found s v) := by
  by_cases hs : s = .prefixes
  · subst hs
    obtain ⟨p, hp⟩ := Prefixes.exists_read_of_readValue h hcs
    exact ⟨{ q with prefixes := p }, bind_eq_ok_iff.mpr ⟨_, hp, rfl⟩,
      (madeOf_enter hq .prefixes v).withPrefixes p⟩
  · -- All sections but the prefixes are read through a value.
    refine ⟨s.enter q v, ?_, madeOf_enter hq s v⟩
    have hread : s.read fuel room q cs = readValue fuel room cs >>= fun x => pure (s.enter q x.1, x.2) := by
      cases s <;> first | rfl | exact absurd rfl hs
    rw [hread, h]
    rfl

/-- What looks like a query is an object, or an array with no more elements than there are sections. -/
def Json.Value.LooksLikeQuery (v : Value) : Prop :=
  v.isObject = true ∨ ∃ vs, v = .array vs ∧ vs.length ≤ 5

namespace Query

/-! ## Members -/

/-- The fault of a section that is named again. -/
def IsRepeated (f : Fault) : Prop := ∃ s : Section, f.cause = .repeatedMember s.name

/-- The sections among some members, when one of them has been given a new value. -/
theorem section?_object_set (done : List (String × Value)) (name : String) (v : Value) (s : Section) :
    (Value.object (Entries.set name v done)).section? s =
      if s.name = name then some v else (Value.object done).section? s :=
  Entries.lookup_set name v s.name done

/-- **A member is read**, skipped or refused where the decoder has read it. -/
theorem follows_readMember {state : List Section × Query} {ms ms' : List (String × Value)} {name : String}
    (hstate : state.2.MadeOf fun s => (Value.object ms).section? s)
    (hahead : ∀ ahead, colon cs = .ok ahead → ahead.length ≤ fuel)
    (h : addMember (readValue fuel room) ms name cs = .ok (ms', rest)) :
    rest.length ≤ fuel ∧
      Follows (fun state ms => state.2.MadeOf fun s => (Value.object ms).section? s) IsRepeated
        (readMember fuel room state name cs) (ms', rest) := by
  obtain ⟨seen, q⟩ := state
  obtain ⟨ahead, hcolon, h⟩ := bind_eq_ok_iff.mp h
  obtain ⟨⟨v, behind⟩, hvalue, h⟩ := bind_eq_ok_iff.mp h
  cases h
  have hlimit := hahead ahead hcolon
  refine ⟨Nat.le_trans (length_le_of_readValue hvalue) hlimit, ?_⟩
  rw [readMember, hcolon, ok_bind]
  cases hs : Section.ofName? name with
  | none =>
      -- No section is found under the name, so its new value does not matter.
      have hsections : (fun s => (Value.object (Entries.set name v ms)).section? s) =
          fun s => (Value.object ms).section? s := by
        funext s
        have hname : s.name ≠ name := by
          intro heq
          rw [Section.ofName?_eq_some_iff.mpr heq] at hs
          exact Option.some_ne_none s hs
        rw [section?_object_set, if_neg hname]
      dsimp only
      rw [skipValue_of_readValue hvalue hlimit, ok_bind]
      refine .ok _ ?_
      rw [hsections]
      exact hstate
  | some s =>
      have hname := Section.ofName?_eq_some_iff.mp hs
      have hsections : (fun s => (Value.object (Entries.set name v ms)).section? s) =
          withSection (fun s => (Value.object ms).section? s) s v := by
        funext s'
        rw [section?_object_set, ← hname]
        simp only [Section.name_inj, withSection]
      dsimp only
      split
      case isTrue =>
          refine .fault _ ⟨s, ?_⟩
          unfold repeatedFault
          split <;> rfl
      case isFalse =>
          obtain ⟨q', hread, hq'⟩ := Section.exists_read_of_readValue hvalue hlimit hstate s
          dsimp only at hread
          rw [ok_bind, hread, ok_bind]
          refine .ok _ ?_
          rw [hsections]
          exact hq'

/-! ## Places -/

theorem closeArray_of_nextElement {first : Bool} (h : nextElement first cs = .ok (false, rest)) :
    closeArray cs = .ok rest := by
  rw [closeArray, skipBlanks_of_nextElement h]
  rfl

/-- After the last section nothing but the end of the array is taken. -/
theorem exists_closeArray_eq_error {first : Bool} {found : List Char}
    (h : nextElement first cs = .ok (true, found)) : ∃ f, closeArray cs = .error f := by
  obtain ⟨start, hstart, -⟩ := continues_of_nextElement h
  unfold closeArray
  split
  case h_2 behind hclose =>
      cases hstart with
      | first hcs hc =>
          rw [hcs] at hclose
          exact absurd (List.cons.inj hclose).1 hc
      | next hcs =>
          rw [hcs] at hclose
          exact absurd (List.cons.inj hclose).1 (by decide)
  case h_3 => split <;> exact ⟨_, rfl⟩
  all_goals exact ⟨_, rfl⟩

/-- **The places of an array are read** where the decoder reads its elements, as many as there are
sections. -/
theorem follows_readSections {n : Nat} {first : Bool} {q : Query} {done vs : List Value}
    (hdone : done.length ≤ 5) (hq : q.MadeOf fun s => (Value.array done.reverse).section? s)
    (hcs : cs.length ≤ fuel)
    (h : readElements (addElement (readValue fuel room)) n first done cs = .ok (vs, rest)) :
    Follows (fun q vs => q.MadeOf fun s => (Value.array vs.reverse).section? s) (fun _ => 5 < vs.length)
      (readSections fuel room first q (Section.all.drop done.length) cs) (vs, rest) := by
  induction n generalizing first q done cs with
  | zero => exact absurd h (by simp [readElements])
  | succ n ih =>
      rw [readElements] at h
      obtain ⟨⟨more, found⟩, hnext, h⟩ := bind_eq_ok_iff.mp h
      cases more with
      | false =>
          cases h
          -- The array ends before the next section or behind the last one.
          generalize Section.all.drop vs.length = sections
          cases sections with
          | nil =>
              rw [readSections, closeArray_of_nextElement hnext]
              exact .ok _ hq
          | cons s sections =>
              rw [readSections, hnext]
              exact .ok _ hq
      | true =>
          obtain ⟨⟨done', behind⟩, helement, h⟩ := bind_eq_ok_iff.mp h
          obtain ⟨⟨v, behind'⟩, hvalue, helement⟩ := bind_eq_ok_iff.mp helement
          cases helement
          have hfound := Nat.le_trans (length_le_of_nextElement hnext) hcs
          rcases Nat.lt_or_eq_of_le hdone with hplace | hfull
          · obtain ⟨s, hs, hsections⟩ := Section.exists_drop_all_eq hplace
            obtain ⟨q', hread, hq'⟩ := Section.exists_read_of_readValue hvalue hfound hq s
            have hbehind := Nat.le_trans (length_le_of_readValue hvalue) hfound
            rw [hsections, readSections, hnext, ok_bind]
            dsimp only
            rw [hread, ok_bind]
            have hplace' : s.position = done.reverse.length := by rw [hs, List.length_reverse]
            refine ih ?_ ?_ hbehind h
            · rw [List.length_cons]
              omega
            · rw [List.reverse_cons, section?_array_append hplace' v]
              exact hq'
          · have hlonger : 5 < vs.length := by
              refine readElements_keeps (fun vs => 5 < vs.length) ?_ ?_ h
              · intro vs cs vs' rest hvs helement
                obtain ⟨⟨v, behind⟩, -, helement⟩ := bind_eq_ok_iff.mp helement
                cases helement
                exact Nat.lt_succ_of_lt hvs
              · rw [List.length_cons]
                omega
            obtain ⟨f, hf⟩ := exists_closeArray_eq_error hnext
            rw [hfull, show Section.all.drop 5 = [] from rfl, readSections, hf]
            exact .fault _ hlonger

/-! ## Queries -/

/-- **A query is read** or refused where the decoder reads a value. -/
theorem follows_read {v : Value} (h : readValue fuel room cs = .ok (v, rest)) (hcs : cs.length ≤ fuel) :
    Follows (fun q v => q.MadeOf fun s => v.section? s)
      (fun f => IsRepeated f ∨ ¬ v.LooksLikeQuery) (read fuel room cs) (v, rest) := by
  rw [read]
  split
  case h_1 inner hblanks =>
      obtain ⟨room, vs, rfl, rfl, hloop⟩ := exists_elements_of_readValue hblanks h
      have hinner := Nat.le_trans (Nat.le_of_lt (length_lt_of_skipBlanks hblanks)) hcs
      have hnone : ([] : List Value).length ≤ 5 := Nat.zero_le 5
      have hfollows := follows_readSections hnone (madeOf_empty fun _ => rfl) hinner hloop
      refine hfollows.imp (fun q hq => hq) fun f hlonger => Or.inr ?_
      rintro (hobject | ⟨vs', hvs', hshort⟩)
      · exact absurd hobject (by simp [Value.isObject])
      · rw [← Value.array.inj hvs', List.length_reverse] at hshort
        omega
  case h_2 inner hblanks =>
      obtain ⟨room, ms, rfl, rfl, hloop⟩ := exists_members_of_readValue hblanks h
      have hinner := Nat.le_trans (Nat.le_of_lt (length_lt_of_skipBlanks hblanks)) hcs
      have hfollows : Follows
          (fun (state : List Section × Query) ms => state.2.MadeOf fun s => (Value.object ms).section? s)
          IsRepeated (readMembers (readMember fuel room) fuel true ([], empty) inner) (ms, rest) :=
        follows_readMembers (fun _ _ _ _ _ _ => follows_readMember) (madeOf_empty fun _ => rfl) hinner hloop
      dsimp only
      generalize readMembers (readMember fuel room) fuel true ([], empty) inner = x at hfollows ⊢
      cases hfollows with
      | ok rest hstate =>
          refine .ok rest ?_
          exact hstate
      | fault y hrepeated =>
          refine .fault _ ?_
          exact Or.inl hrepeated
  case h_3 harray hobject =>
      rw [readValue_skipBlanks, h]
      refine .fault _ (Or.inr ?_)
      rcases bracket_or_scalar h with ⟨inner, hcs⟩ | ⟨inner, hcs⟩ | ⟨hvs, hv⟩
      · exact absurd hcs (harray inner)
      · exact absurd hcs (hobject inner)
      · rintro (hobject | ⟨vs, heq, -⟩)
        · rw [hv] at hobject
          exact Bool.false_ne_true hobject
        · exact hvs vs heq

/-- **A text that can be decoded** is loaded as a query that is made up of the sections of its value, unless
it names one of them again or does not look like a query. -/
theorem ofText_of_decode {text : String} {v : Value} (h : decode text = .ok v) :
    (∃ q, ofText text = .ok q ∧ q.MadeOf fun s => v.section? s) ∨
    ∃ failure, ofText text = .error (.json failure) ∧
      ((∃ s : Section, failure.cause = .repeatedMember s.name) ∨ ¬ v.LooksLikeQuery) := by
  obtain ⟨⟨v', rest⟩, hvalue, hend⟩ := bind_eq_ok_iff.mp (mapError_eq_ok_iff.mp h)
  have hfollows := follows_read hvalue (Nat.le_succ _)
  dsimp only at hend
  split at hend
  case h_2 => exact absurd hend (by simp)
  case h_1 hblanks =>
      cases hend
      generalize hread : read (text.toList.length + 1) depthLimit text.toList = x at hfollows
      cases hfollows with
      | ok rest hq =>
          refine Or.inl ⟨_, ?_, hq⟩
          refine mapError_eq_ok_iff.mpr (mapError_eq_ok_iff.mpr (bind_eq_ok_iff.mpr ⟨_, hread, ?_⟩))
          dsimp only
          rw [hblanks]
          rfl
      | @fault f y hfault =>
          refine Or.inr ⟨f.toFailure text.toList, ?_, hfault⟩
          simp only [ofText, readDocument, hread]
          rfl

end Query

end QueryGraph
