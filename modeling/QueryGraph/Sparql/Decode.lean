import QueryGraph.Json.Value
import QueryGraph.Sparql.Query

/-!
# `Sparql.Decode` — queries from JSON values

Terms, patterns and projections are read from the objects that a query parser writes. Every value
can be read: what has not the expected shape becomes an unknown term, a pattern of another kind or
an item without a variable.

## Contents
- `Term.ofJson`, `Predicate.ofJson`, `Triple.ofJson` — the parts of a triple.
- `Pattern.ofJson` — the WHERE tree; `branchEntries` — one branch of a union.
- `SelectItem.ofJson`, `Projection.ofJson` — the projection.
-/

namespace QueryGraph

open Json

/-! ## Terms -/

/-- The text of a scalar member, unless it is empty. -/
def nonEmptyText? (v : Option Value) : Option String :=
  (v.bind Value.scalarText?).filter (· ≠ "")

/-- The text of a scalar member, empty if there is none. -/
def textAt (name : String) (v : Value) : String := ((v.get? name).bind Value.scalarText?).getD ""

/-- A term is an object that names one of the four kinds of terms; all else is unknown. -/
def Term.ofJson (v : Value) : Term :=
  match v.stringAt? "termType" with
  | some "Variable" => .var (textAt "value" v)
  | some "NamedNode" => .iri (textAt "value" v)
  | some "BlankNode" => .blank (textAt "value" v)
  | some "Literal" =>
    .literal {
      value := textAt "value" v
      language := nonEmptyText? (v.get? "language")
      datatype := nonEmptyText? ((v.get? "datatype").bind (Value.get? "value")) }
  | _ => .unknown

/-! ## Triples -/

/-- An object that says which kind of term it is, whatever it says. -/
def hasTermType (v : Value) : Bool :=
  match v.get? "termType" with
  | none | some .null => false
  | some _ => true

/-- An object with a term type is a term, an object without one is a path, and nothing else is
either. -/
def Predicate.ofJson (v : Value) : Predicate :=
  if ¬v.isObject then .term .unknown
  else if hasTermType v then .term (Term.ofJson v)
  else .path (textAt "pathType" v) ((v.elementsAt "items").attach.map fun ⟨item, _⟩ => ofJson item)
termination_by sizeOf v
decreasing_by exact Value.sizeOf_lt_of_elementsAt ‹_›

/-- The reading of a path goes through its items one by one. -/
theorem Predicate.ofJson_eq (v : Value) :
    Predicate.ofJson v =
      if ¬v.isObject then .term .unknown
      else if hasTermType v then .term (Term.ofJson v)
      else .path (textAt "pathType" v) ((v.elementsAt "items").map ofJson) := by
  rw [Predicate.ofJson]
  simp

/-- A position of a triple; an absent one is read like `null`. -/
def position (name : String) (v : Value) : Value := (v.get? name).getD .null

/-- A triple has three positions, whatever is in them. -/
def Triple.ofJson (v : Value) : Triple where
  subject := Term.ofJson (position "subject" v)
  predicate := Predicate.ofJson (position "predicate" v)
  object := Term.ofJson (position "object" v)

/-! ## Patterns -/

/-- The kind a pattern says it is of. -/
def patternKind (v : Value) : String := (v.stringAt? "type").getD ""

/-- The patterns of a branch of a union: the elements of an array, or one pattern. -/
def branchEntries : Value → List Value
  | .array entries => entries
  | single => [single]

/-- What stands in a branch is no larger than the branch. -/
theorem sizeOf_le_of_branchEntries {branch e : Value} (h : e ∈ branchEntries branch) :
    sizeOf e ≤ sizeOf branch := by
  cases branch with
  | array entries =>
    have := List.sizeOf_lt_of_mem (show e ∈ entries from h)
    simp
    omega
  | _ => simp_all [branchEntries]

/-- A pattern of a known kind that has the list it needs is read with that list; any other value is
a pattern of another kind. -/
def Pattern.ofJson (v : Value) : Pattern :=
  let nested := (v.elementsAt "patterns").attach
  match patternKind v, v.arrayAt? "triples", v.arrayAt? "patterns" with
  | "bgp", some triples, _ => .basic (triples.map Triple.ofJson)
  | "union", _, some _ =>
    .union (nested.map fun ⟨branch, _⟩ =>
      (branchEntries branch).attach.map fun ⟨entry, _⟩ => ofJson entry)
  | "optional", _, some _ => .optional (nested.map fun ⟨entry, _⟩ => ofJson entry)
  | "group", _, some _ => .group (nested.map fun ⟨entry, _⟩ => ofJson entry)
  | "graph", _, some _ =>
    .graph (Term.ofJson (position "name" v)) (nested.map fun ⟨entry, _⟩ => ofJson entry)
  | kind, _, _ => .other kind
termination_by sizeOf v
decreasing_by
  · exact Nat.lt_of_le_of_lt (sizeOf_le_of_branchEntries ‹_›) (Value.sizeOf_lt_of_elementsAt ‹_›)
  all_goals exact Value.sizeOf_lt_of_elementsAt ‹_›

/-- The reading of a pattern goes through its entries one by one. -/
theorem Pattern.ofJson_eq (v : Value) :
    Pattern.ofJson v =
      let nested := v.elementsAt "patterns"
      match patternKind v, v.arrayAt? "triples", v.arrayAt? "patterns" with
      | "bgp", some triples, _ => .basic (triples.map Triple.ofJson)
      | "union", _, some _ => .union (nested.map fun branch => (branchEntries branch).map ofJson)
      | "optional", _, some _ => .optional (nested.map ofJson)
      | "group", _, some _ => .group (nested.map ofJson)
      | "graph", _, some _ => .graph (Term.ofJson (position "name" v)) (nested.map ofJson)
      | kind, _, _ => .other kind := by
  rw [Pattern.ofJson]
  simp

/-! ## Projections -/

/-- A variable is an item of its own; an object without a term type that names a variable is an
alias. -/
def SelectItem.ofJson (v : Value) : SelectItem :=
  match v.stringAt? "termType", v.get? "variable" with
  | some "Variable", _ => .var (textAt "value" v)
  | none, some named =>
    match Term.ofJson named with
    | .var name => .aliased name
    | _ => .other
  | _, _ => .other

/-- The two spellings of `*` inside a list of items. -/
def isWildcard (v : Value) : Bool :=
  v.asString? = some "*" || v.stringAt? "termType" = some "Wildcard"

/-- `"*"`, or an array with a wildcard in it, projects everything; another array lists the items;
all else projects nothing. -/
def Projection.ofJson (v : Value) : Projection :=
  match v with
  | .string text => if text = "*" then .all else .items []
  | .array elements =>
    if elements.any isWildcard then .all else .items (elements.map SelectItem.ofJson)
  | _ => .items []

end QueryGraph
