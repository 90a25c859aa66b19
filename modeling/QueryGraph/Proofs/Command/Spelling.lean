import Mathlib.Data.List.TakeWhile
import QueryGraph.Proofs.Command.Items

/-!
# `Proofs.Command.Spelling` — the grammar of command lines

An option can be written long or short, joined with others, with its value attached or behind it.
`Spelled` says which arguments spell which items, and reading by letters and arguments comes to the same
as taking up the items one by one (`readArguments_of_spelled`). The grammar leaves nothing out: every
command line that is not refused is spelled by some items (`exists_spelled`).

## Contents
- `Joined`, `Word`, `Spelled` — how items are written.
- `readShort_of_joined`, `readArgument_of_word`, `readArguments_of_spelled` — what is spelled is read.
- `exists_joined`, `exists_word`, `exists_spelled` — what is read is spelled.
-/

namespace QueryGraph.Command

/-! ## Spelling -/

/-- Joined short options: the items that the letters give, and the option that waits for its value behind
them. -/
inductive Joined : List Item → List Char → Option Setting → Prop
  | nil : Joined [] [] none
  | flag {c : Char} {f : Flag} {items : List Item} {cs : List Char} {waiting : Option Setting}
    (hletter : Switch.ofLetter? c = some (.flag f)) (hrest : Joined items cs waiting) :
    Joined (.flag f :: items) (c :: cs) waiting
  /-- What stands behind a flag that is answered at once is not read. -/
  | answer {c : Char} {f : Flag} (hletter : Switch.ofLetter? c = some (.flag f))
    (hanswer : f.answer?.isSome) (cs : List Char) : Joined [.flag f] (c :: cs) none
  | assigned {c : Char} {s : Setting} (hletter : Switch.ofLetter? c = some (.setting s))
    (text : List Char) : Joined [.value s (String.ofList text)] (c :: '=' :: text) none
  | attached {c : Char} {s : Setting} (hletter : Switch.ofLetter? c = some (.setting s))
    {text : List Char} (htext : text ≠ []) (hassigned : text.head? ≠ some '=') :
    Joined [.value s (String.ofList text)] (c :: text) none
  | waiting {c : Char} {s : Setting} (hletter : Switch.ofLetter? c = some (.setting s)) :
    Joined [] [c] (some s)

/-- One argument: the items that it gives, and the option that waits for its value in the next one. -/
inductive Word : List Item → String → Option Setting → Prop
  | input {path : String} (hvalue : isValue path = true) : Word [.input path] path none
  | flag (f : Flag) : Word [.flag f] ("--" ++ (Switch.flag f).name) none
  | assigned (s : Setting) (text : String) :
    Word [.value s text] ("--" ++ (Switch.setting s).name ++ "=" ++ text) none
  | waiting (s : Setting) : Word [] ("--" ++ (Switch.setting s).name) (some s)
  | joined {items : List Item} {cs : List Char} {waiting : Option Setting} (hcs : cs ≠ [])
    (hjoined : Joined items cs waiting) : Word items ("-" ++ String.ofList cs) waiting

/-- **The grammar of command lines**: the arguments spell the items. -/
inductive Spelled : List Item → List String → Prop
  | nil : Spelled [] []
  | word {items rest : List Item} {argument : String} {arguments : List String}
    (hword : Word items argument none) (hrest : Spelled rest arguments) :
    Spelled (items ++ rest) (argument :: arguments)
  | followed {items rest : List Item} {argument text : String} {arguments : List String}
    {s : Setting} (hword : Word items argument (some s)) (hvalue : isValue text = true)
    (hrest : Spelled rest arguments) :
    Spelled (items ++ .value s text :: rest) (argument :: text :: arguments)
  /-- What stands behind a flag that is answered at once is not read. -/
  | answered {items : List Item} {argument : String} {waiting : Option Setting}
    (hword : Word items argument waiting) (hanswer : ∃ item ∈ items, item.answer?.isSome)
    (arguments : List String) : Spelled items (argument :: arguments)
  /-- Behind two dashes everything is an input. -/
  | dashes (paths : List String) : Spelled (paths.map .input) ("--" :: paths)

/-! ## What is spelled is read -/

/-- How reading goes on when the items of an argument have been taken up, with an option waiting for its
value or not. -/
def progressOf (waiting : Option Setting) : Except Stop Draft → Except ArgumentError Progress
  | .error (.fault e) => .error e
  | .error (.answer r) => .ok (.answer r)
  | .ok d => .ok (waiting.elim (.next d) (.awaitValue d))

theorem foldlM_take_singleton (d : Draft) (item : Item) :
    [item].foldlM Draft.take d = d.take item := by
  rw [List.foldlM_cons]
  exact bind_pure (d.take item)

/-- A flag is raised as its item is taken up. -/
theorem raise_eq_progressOf (d : Draft) (f : Flag) : raise d f = progressOf none (d.take (.flag f)) := by
  cases f with
  | version => rfl
  | help => rfl
  | _ =>
      unfold raise Draft.take
      dsimp only [Flag.answer?]
      split <;> rfl

theorem progressOf_mapError (waiting : Option Setting) (x : Except ArgumentError Draft) :
    progressOf waiting (x.mapError .fault) = x.map fun d => waiting.elim (.next d) (.awaitValue d) := by
  cases x <;> rfl

/-- An option gets its value as the item is taken up. -/
theorem map_set_eq_progressOf (d : Draft) (s : Setting) (text : String) :
    (d.set s text).map Progress.next = progressOf none (d.take (.value s text)) :=
  (progressOf_mapError none (d.set s text)).symm

/-- **Joined letters are read as their items are taken up.** -/
theorem readShort_of_joined {items : List Item} {cs : List Char} {waiting : Option Setting}
    (h : Joined items cs waiting) (d : Draft) :
    readShort d cs = progressOf waiting (items.foldlM Draft.take d) := by
  -- The draft changes with each letter, so the induction on the letters is for all drafts.
  induction h generalizing d with
  | nil => rfl
  | @flag c f items cs waiting hletter hrest ih =>
      rw [readShort, hletter, List.foldlM_cons]
      dsimp only
      rw [raise_eq_progressOf]
      cases d.take (.flag f) with
      | error stop => cases stop <;> rfl
      | ok d' => exact ih d'
  | @answer c f hletter hanswer cs =>
      obtain ⟨r, hr⟩ := Option.isSome_iff_exists.mp hanswer
      have htake : d.take (.flag f) = .error (.answer r) := Draft.take_of_answer hr
      rw [readShort, hletter, foldlM_take_singleton]
      dsimp only
      rw [raise_eq_progressOf, htake]
      rfl
  | @assigned c s hletter text =>
      rw [readShort, hletter, foldlM_take_singleton, ← map_set_eq_progressOf]
      rfl
  | @attached c s hletter text htext hassigned =>
      rw [readShort, hletter, foldlM_take_singleton, ← map_set_eq_progressOf]
      dsimp only
      split
      · exact absurd rfl htext
      · exact absurd rfl hassigned
      · rfl
  | @waiting c s hletter =>
      rw [readShort, hletter]
      rfl

/-! Of a long option, the name goes up to the equals sign. -/

theorem Switch.ne_of_mem_name {s : Switch} {c : Char} (h : c ∈ s.name.toList) : c ≠ '=' := by
  have hname : s.name.toList.all (· != '=') = true := by
    cases s with
    | flag f => cases f <;> rfl
    | setting s => cases s <;> rfl
  exact bne_iff_ne.mp (List.all_eq_true.mp hname c h)

theorem readLong_name (d : Draft) (s : Switch) :
    readLong d s.name.toList =
      match s with
      | .flag f => raise d f
      | .setting s => .ok (.awaitValue d s) := by
  have hname : ∀ c ∈ s.name.toList, decide (c ≠ '=') = true :=
    fun _ hc => decide_eq_true (Switch.ne_of_mem_name hc)
  unfold readLong
  rw [List.takeWhile_eq_self_iff.mpr hname, List.dropWhile_eq_nil_iff.mpr hname, String.ofList_toList]
  dsimp only
  rw [Switch.ofName?_name]
  cases s <;> rfl

theorem readLong_assigned (d : Draft) (s : Setting) (text : List Char) :
    readLong d ((Switch.setting s).name.toList ++ '=' :: text) =
      (d.set s (String.ofList text)).map .next := by
  have hname : ∀ c ∈ (Switch.setting s).name.toList, decide (c ≠ '=') = true :=
    fun _ hc => decide_eq_true (Switch.ne_of_mem_name hc)
  unfold readLong
  rw [List.takeWhile_append_of_pos hname, List.dropWhile_append_of_pos hname,
    List.takeWhile_cons_of_neg (by simp), List.dropWhile_cons_of_neg (by simp), List.append_nil,
    String.ofList_toList]
  dsimp only
  rw [Switch.ofName?_name]

/-- No short option is a dash. -/
theorem Joined.ne_dash {items : List Item} {c : Char} {cs : List Char} {waiting : Option Setting}
    (h : Joined items (c :: cs) waiting) : c ≠ '-' := by
  rintro rfl
  cases h <;> contradiction

/-- **An argument is read as its items are taken up.** -/
theorem readArgument_of_word {items : List Item} {argument : String} {waiting : Option Setting}
    (h : Word items argument waiting) (d : Draft) :
    readArgument d argument = progressOf waiting (items.foldlM Draft.take d) := by
  cases h with
  | input hvalue =>
      have hset : (d.setInput argument).map Progress.next = progressOf none (d.take (.input argument)) :=
        (progressOf_mapError none (d.setInput argument)).symm
      have hpath : argument.toList = ['-'] ∨ argument.toList.head? ≠ some '-' := by
        rcases (Bool.or_eq_true _ _).mp hvalue with hdash | hhead
        · exact Or.inl (congrArg String.toList (of_decide_eq_true hdash))
        · exact Or.inr (of_decide_eq_true hhead)
      rw [foldlM_take_singleton, ← hset]
      unfold readArgument
      split
      · rename_i hargument
        simp [hargument] at hpath
      · rename_i hargument
        simp [hargument] at hpath
      · rfl
  | flag f =>
      have hargument : ("--" ++ (Switch.flag f).name).toList =
          '-' :: '-' :: (Switch.flag f).name.toList :=
        String.toList_append
      unfold readArgument
      rw [hargument, foldlM_take_singleton, ← raise_eq_progressOf]
      exact readLong_name d (.flag f)
  | assigned s text =>
      have hargument : ("--" ++ (Switch.setting s).name ++ "=" ++ text).toList =
          '-' :: '-' :: ((Switch.setting s).name.toList ++ '=' :: text.toList) := by
        simp
      unfold readArgument
      rw [hargument, foldlM_take_singleton, ← map_set_eq_progressOf]
      show readLong d _ = _
      rw [readLong_assigned, String.ofList_toList]
  | waiting s =>
      have hargument : ("--" ++ (Switch.setting s).name).toList =
          '-' :: '-' :: (Switch.setting s).name.toList :=
        String.toList_append
      unfold readArgument
      rw [hargument]
      exact readLong_name d (.setting s)
  | @joined items cs waiting hcs hjoined =>
      have hargument : ("-" ++ String.ofList cs).toList = '-' :: cs := by
        simp
      rw [← readShort_of_joined hjoined d]
      unfold readArgument
      rw [hargument]
      -- A second dash would make the option a long one, but no letter is a dash.
      split
      · rename_i hbody
        obtain ⟨-, rfl⟩ := List.cons.inj hbody
        exact absurd rfl hjoined.ne_dash
      · rename_i hbody
        obtain ⟨-, rfl⟩ := List.cons.inj hbody
        rfl
      · rename_i hbody
        cases cs with
        | nil => exact absurd rfl hcs
        | cons c cs => exact absurd rfl (hbody c cs)

/-- No argument with items is the two dashes that end the options. -/
theorem Word.ne_dashes {items : List Item} {argument : String} {waiting : Option Setting}
    (h : Word items argument waiting) : argument ≠ "--" := by
  intro hdashes
  have hlist := congrArg String.toList hdashes
  cases h with
  | input hvalue =>
      rw [hdashes] at hvalue
      cases hvalue
  | flag f => cases f <;> cases hlist
  | assigned s text => cases s <;> simp [Switch.name] at hlist
  | waiting s => cases s <;> cases hlist
  | @joined items cs waiting hcs hjoined =>
      have hcs' : cs = ['-'] := by simpa using hlist
      subst hcs'
      exact hjoined.ne_dash rfl

theorem foldlM_take_inputs (paths : List String) (d : Draft) :
    (paths.map Item.input).foldlM Draft.take d = (paths.foldlM Draft.setInput d).mapError .fault := by
  induction paths generalizing d with
  | nil => rfl
  | cons path paths ih =>
      rw [List.map_cons, List.foldlM_cons, List.foldlM_cons]
      show ((d.setInput path).mapError Stop.fault >>= _) = _
      cases d.setInput path with
      | error e => rfl
      | ok d' => exact ih d'

/-- **What is spelled is read**: the arguments ask for what their items ask for. -/
theorem readArguments_of_spelled {items : List Item} {arguments : List String}
    (h : Spelled items arguments) (d : Draft) :
    readArguments d arguments = requestOf (items.foldlM Draft.take d) := by
  induction h generalizing d with
  | nil => rfl
  | @word items rest argument arguments hword hrest ih =>
      rw [readArguments, if_neg hword.ne_dashes, readArgument_of_word hword, List.foldlM_append]
      cases items.foldlM Draft.take d with
      | error stop => cases stop <;> rfl
      | ok d' => exact ih d'
  | @followed items rest argument text arguments s hword hvalue hrest ih =>
      rw [readArguments, if_neg hword.ne_dashes, readArgument_of_word hword, List.foldlM_append]
      cases items.foldlM Draft.take d with
      | error stop => cases stop <;> rfl
      | ok d' =>
          -- The option has been waiting, and takes up the next argument as its value.
          show (if isValue text then _ else _) = requestOf ((Item.value s text :: rest).foldlM _ d')
          rw [if_pos hvalue, List.foldlM_cons]
          show _ = requestOf ((d'.set s text).mapError Stop.fault >>= _)
          cases d'.set s text with
          | error e => rfl
          | ok d₂ => exact ih d₂
  | @answered items argument waiting hword hanswer arguments =>
      rw [readArguments, if_neg hword.ne_dashes, readArgument_of_word hword]
      cases hfold : items.foldlM Draft.take d with
      | error stop => cases stop <;> rfl
      | ok d' => exact absurd hfold (foldlM_take_ne_ok hanswer d d')
  | dashes paths =>
      rw [readArguments, if_pos rfl, foldlM_take_inputs]
      cases paths.foldlM Draft.setInput d <;> rfl

/-! ## What is read is spelled -/

/-- Letters that are read are joined options. -/
theorem exists_joined {d : Draft} {cs : List Char} {p : Progress} (h : readShort d cs = .ok p) :
    ∃ items waiting, Joined items cs waiting := by
  induction cs generalizing d with
  | nil => exact ⟨[], none, .nil⟩
  | cons c cs ih =>
      rw [readShort] at h
      cases hletter : Switch.ofLetter? c with
      | none =>
          rw [hletter] at h
          cases h
      | some switch =>
          rw [hletter] at h
          cases switch with
          | flag f =>
              -- Behind a flag that is answered at once anything may stand; a flag that is not is raised,
              -- and then the other letters are read as well.
              cases hanswer : f.answer? with
              | some r => exact ⟨_, _, .answer hletter (Option.isSome_iff_exists.mpr ⟨r, hanswer⟩) cs⟩
              | none =>
                  dsimp only at h
                  rw [raise_eq_progressOf, Draft.take_flag hanswer] at h
                  by_cases hrepeated : f ∈ d.flags
                  · rw [if_pos hrepeated] at h
                    cases h
                  · rw [if_neg hrepeated] at h
                    obtain ⟨items, waiting, hrest⟩ := ih h
                    exact ⟨_, _, .flag hletter hrest⟩
          | setting s =>
              -- The value is waited for, or attached with or without an equals sign.
              rcases cs with _ | ⟨c', text⟩
              · exact ⟨_, _, .waiting hletter⟩
              · by_cases hassigned : c' = '='
                · subst hassigned
                  exact ⟨_, _, .assigned hletter text⟩
                · refine ⟨_, _, .attached hletter (List.cons_ne_nil c' text) fun hhead => ?_⟩
                  exact hassigned (Option.some.inj hhead)

theorem Switch.name_of_ofName? {name : String} {s : Switch} (h : ofName? name = some s) :
    s.name = name := by
  have hfound := List.find?_some h
  exact of_decide_eq_true hfound

/-- A long option that is read is one of those that are spelled. -/
theorem exists_word_of_readLong {d : Draft} {body : List Char} {p : Progress}
    (h : readLong d body = .ok p) :
    ∃ items waiting, Word items ("--" ++ String.ofList body) waiting := by
  have hbody : String.ofList body = String.ofList (body.takeWhile (· ≠ '=')) ++
      String.ofList (body.dropWhile (· ≠ '=')) := by
    rw [← String.ofList_append, List.takeWhile_append_dropWhile]
  unfold readLong at h
  dsimp only at h
  cases hname : Switch.ofName? (String.ofList (body.takeWhile (· ≠ '='))) with
  | none =>
      rw [hname] at h
      cases h
  | some switch =>
      rw [hname] at h
      rw [hbody, ← Switch.name_of_ofName? hname]
      rcases hrest : body.dropWhile (· ≠ '=') with _ | ⟨c, text⟩
      · rw [String.ofList_nil, String.append_empty]
        cases switch with
        | flag f => exact ⟨_, _, .flag f⟩
        | setting s => exact ⟨_, _, .waiting s⟩
      · rw [hrest] at h
        have hassigned : c = '=' := by
          have hhead := List.head?_dropWhile_not (· ≠ '=') body
          rw [hrest] at hhead
          simpa using hhead
        subst hassigned
        cases switch with
        | flag f => cases h
        | setting s =>
            have hargument : "--" ++ ((Switch.setting s).name ++ String.ofList ('=' :: text)) =
                "--" ++ (Switch.setting s).name ++ "=" ++ String.ofList text :=
              String.toList_inj.mp (by simp)
            rw [hargument]
            exact ⟨_, _, .assigned s (String.ofList text)⟩

/-- An argument that is read has items. -/
theorem exists_word {d : Draft} {argument : String} {p : Progress}
    (h : readArgument d argument = .ok p) : ∃ items waiting, Word items argument waiting := by
  unfold readArgument at h
  split at h
  · rename_i body hlong
    obtain ⟨items, waiting, hword⟩ := exists_word_of_readLong h
    have hdashes : argument = "--" ++ String.ofList body := String.toList_inj.mp (by simp [hlong])
    rw [hdashes]
    exact ⟨items, waiting, hword⟩
  · rename_i letter rest _ hshort
    obtain ⟨items, waiting, hjoined⟩ := exists_joined h
    have hdash : argument = "-" ++ String.ofList (letter :: rest) :=
      String.toList_inj.mp (by simp [hshort])
    rw [hdash]
    exact ⟨items, waiting, .joined (List.cons_ne_nil letter rest) hjoined⟩
  · rename_i hshort
    refine ⟨_, _, .input ((Bool.or_eq_true _ _).mpr ?_)⟩
    rcases hlist : argument.toList with _ | ⟨c, rest⟩
    · exact Or.inr rfl
    · by_cases hc : c = '-'
      · subst hc
        cases rest with
        | nil => exact Or.inl (decide_eq_true (String.toList_inj.mp hlist))
        | cons letter rest => exact (hshort letter rest hlist).elim
      · exact Or.inr (decide_eq_true fun hhead => hc (Option.some.inj hhead))

theorem progressOf_eq_next {waiting : Option Setting} {x : Except Stop Draft} {d : Draft}
    (h : progressOf waiting x = .ok (.next d)) : waiting = none := by
  rcases x with (_ | _) | _
  · cases h
  · cases h
  · cases waiting with
    | none => rfl
    | some s => cases h

theorem progressOf_eq_awaitValue {waiting : Option Setting} {x : Except Stop Draft} {d : Draft}
    {s : Setting} (h : progressOf waiting x = .ok (.awaitValue d s)) : waiting = some s := by
  rcases x with (_ | _) | _
  · cases h
  · cases h
  · cases waiting with
    | none => cases h
    | some s' =>
        cases h
        rfl

theorem progressOf_eq_answer {waiting : Option Setting} {x : Except Stop Draft} {r : Request}
    (h : progressOf waiting x = .ok (.answer r)) : x = .error (.answer r) := by
  rcases x with (_ | _) | _
  · cases h
  · cases h
    rfl
  · cases waiting <;> cases h

/-- **What is read is spelled**: the grammar leaves out no command line but those that are refused. -/
theorem exists_spelled {d : Draft} {arguments : List String} {r : Request}
    (h : readArguments d arguments = .ok r) : ∃ items, Spelled items arguments := by
  -- Along the recursion of the reader: the cases in which it fails are void.
  fun_induction readArguments d arguments with
  | case1 d => exact ⟨[], .nil⟩
  | case2 d rest => exact ⟨_, .dashes rest⟩
  | case3 d argument rest hdashes e hread => cases h
  | case4 d argument rest hdashes request hread =>
      obtain ⟨items, waiting, hword⟩ := exists_word hread
      rw [readArgument_of_word hword] at hread
      exact ⟨_, .answered hword (exists_answer (progressOf_eq_answer hread)) rest⟩
  | case5 d argument rest hdashes d' hread ih =>
      obtain ⟨items, waiting, hword⟩ := exists_word hread
      rw [readArgument_of_word hword] at hread
      obtain rfl := progressOf_eq_next hread
      obtain ⟨others, hrest⟩ := ih h
      exact ⟨_, .word hword hrest⟩
  | case6 d argument hdashes d' s hread => cases h
  | case7 d argument hdashes d' s hread text rest hvalue e hset => cases h
  | case8 d argument hdashes d' s hread text rest hvalue d₂ hset ih =>
      obtain ⟨items, waiting, hword⟩ := exists_word hread
      rw [readArgument_of_word hword] at hread
      obtain rfl := progressOf_eq_awaitValue hread
      obtain ⟨others, hrest⟩ := ih h
      exact ⟨_, .followed hword hvalue hrest⟩
  | case9 d argument hdashes d' s hread text rest hvalue => cases h

end QueryGraph.Command
