import QueryGraph.Decimal.Style

/-!
# `Json.Value` — JSON values

The values a JSON text stands for. Members of an object keep their order. A number is an integer of
64 bits or a finite double; which of the two is decided by the reader.

## Contents
- `Number`, `Number.write` — numbers and their text.
- `Value` — values; `get?`, `arrayAt?` — looking into an object.
- `Value.scalarText?` — the text of a string, a number or a boolean.
-/

namespace QueryGraph.Json

/-! ## Numbers -/

/-- A JSON number. -/
inductive Number where
  /-- An integer, in the range of 64 bits when it comes from a reader. -/
  | integer (value : Int)
  /-- Any other number, as the double nearest to it. -/
  | double (value : Binary64)
  deriving DecidableEq, Repr, Inhabited

namespace Number

/-- Doubles are written plainly when the first digit stands for a power of ten from `-5` to `15`. -/
def style : DecimalStyle := ⟨-5, 16⟩

/-- The digits of an integer under its sign. -/
def writeInteger (value : Int) : List Char :=
  let digits := Nat.toDigits 10 value.natAbs
  if value < 0 then '-' :: digits else digits

/-- The text of a number. -/
def write : Number → List Char
  | integer value => writeInteger value
  | double value => value.write style

end Number

/-! ## Values -/

/-- A JSON value. -/
inductive Value where
  | null
  | bool (value : Bool)
  | number (value : Number)
  | string (value : String)
  | array (elements : List Value)
  | object (members : List (String × Value))
  deriving Repr, Inhabited

namespace Value

/-- The members of an object; nothing else has any. -/
def members : Value → List (String × Value)
  | object members => members
  | _ => []

/-- Whether a value is an object. -/
def isObject : Value → Bool
  | object _ => true
  | _ => false

/-- The member of an object with the given name. -/
def get? (name : String) (v : Value) : Option Value := v.members.lookup name

/-- The text of a string value. -/
def asString? : Value → Option String
  | string text => some text
  | _ => none

/-- The elements of an array value. -/
def asArray? : Value → Option (List Value)
  | array elements => some elements
  | _ => none

/-- The string under a name. -/
def stringAt? (name : String) (v : Value) : Option String := (v.get? name).bind asString?

/-- The elements of the array under a name. -/
def arrayAt? (name : String) (v : Value) : Option (List Value) := (v.get? name).bind asArray?

/-- The elements of the array under a name; none if there is no array. -/
def elementsAt (name : String) (v : Value) : List Value := (v.arrayAt? name).getD []

/-- The text of a scalar: strings as they are, numbers and booleans written out. -/
def scalarText? : Value → Option String
  | string text => some text
  | number n => some (String.ofList n.write)
  | bool true => some "true"
  | bool false => some "false"
  | _ => none

/-! ### Sizes, for recursion through members -/

/-- A value found in a member list is smaller than the list. -/
theorem sizeOf_lt_of_lookup {name : String} {v : Value} {members : List (String × Value)}
    (h : members.lookup name = some v) : sizeOf v < sizeOf members := by
  induction members with
  | nil => simp at h
  | cons member rest ih =>
    obtain ⟨other, old⟩ := member
    simp only [List.lookup_cons] at h
    split at h
    · cases h
      simp
      omega
    · have := ih h
      simp
      omega

/-- An element of an array found under a name is smaller than the object. -/
theorem sizeOf_lt_of_arrayAt? {name : String} {v e : Value} {elements : List Value}
    (h : v.arrayAt? name = some elements) (he : e ∈ elements) : sizeOf e < sizeOf v := by
  obtain ⟨found, hf, ha⟩ := Option.bind_eq_some_iff.1 h
  cases found <;> simp [asArray?] at ha
  subst ha
  cases v <;> simp [get?, members] at hf
  have h1 := sizeOf_lt_of_lookup hf
  have h2 := List.sizeOf_lt_of_mem he
  simp at h1 ⊢
  omega

/-- An element of an array found under a name, or of no array, is smaller than the object. -/
theorem sizeOf_lt_of_elementsAt {name : String} {v e : Value} (he : e ∈ v.elementsAt name) :
    sizeOf e < sizeOf v := by
  unfold elementsAt at he
  cases h : v.arrayAt? name with
  | none => simp [h] at he
  | some elements => exact sizeOf_lt_of_arrayAt? h (by simpa [h] using he)

end Value

end QueryGraph.Json
