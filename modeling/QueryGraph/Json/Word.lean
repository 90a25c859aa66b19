import QueryGraph.Json.Fault

/-!
# `Json.Word` — blanks and fixed words

## Contents
- `skipBlanks` — the text behind blanks.
- `word` — the rest of a fixed word such as `true`, after its first letter.
-/

namespace QueryGraph.Json

/-- The blanks that may stand between tokens: space, tab, line feed and carriage return. -/
def isBlank (c : Char) : Bool := c = ' ' || c = '\t' || c = '\n' || c = '\r'

/-- The text behind any blanks. -/
def skipBlanks (cs : List Char) : List Char := cs.dropWhile isBlank

/-- A text that starts with something else than a blank is left alone. -/
theorem skipBlanks_cons {c : Char} (h : isBlank c = false) (cs : List Char) :
    skipBlanks (c :: cs) = c :: cs := by
  simp [skipBlanks, h]

/-- Blanks are passed over. -/
theorem skipBlanks_append {bs : List Char} (h : ∀ c ∈ bs, isBlank c = true) (cs : List Char) :
    skipBlanks (bs ++ cs) = skipBlanks cs := by
  induction bs with
  | nil => rfl
  | cons b bs ih =>
    have hb := h b (List.mem_cons_self ..)
    have := ih fun c hc => h c (List.mem_cons_of_mem _ hc)
    simpa [skipBlanks, hb] using this

/-- Reads the given letters and returns `value`. A wrong letter is consumed before it is reported.
-/
def word {α : Type} (value : α) : List Char → List Char → Except Fault (Scanned α)
  | [], cs => .ok (value, cs)
  | _ :: _, [] => .error (.after .endInValue [])
  | letter :: letters, c :: cs =>
    if c = letter then word value letters cs else .error (.atNext .wordExpected (c :: cs))

/-- A word is read off the front of a text that starts with it. -/
theorem word_append {α : Type} (value : α) (letters cs : List Char) :
    word value letters (letters ++ cs) = .ok (value, cs) := by
  induction letters with
  | nil => rfl
  | cons letter letters ih => simpa [word] using ih

end QueryGraph.Json
