import QueryGraph.Sparql.Pattern

/-!
# `Sparql.Query` — a parsed query

## Contents
- `Projection`, `SelectItem` — what a query returns.
- `Query` — the sections of a query that matter for its graph.
- `Query.typeName` — the name under which a query is shown.
- `Query.selectedKeys` — the keys of the variables that a SELECT returns.
-/

namespace QueryGraph

/-- One item of an explicit projection. -/
inductive SelectItem where
  /-- `?x` -/
  | var (name : String)
  /-- `(expression AS ?x)` -/
  | aliased (name : String)
  /-- Anything else. -/
  | other
  deriving DecidableEq, Repr, Inhabited

/-- The variable that an item returns. -/
def SelectItem.name? : SelectItem → Option String
  | var name | aliased name => some name
  | other => none

/-- What a query returns. -/
inductive Projection where
  /-- `SELECT *` -/
  | all
  /-- The listed items. -/
  | items (list : List SelectItem)
  deriving DecidableEq, Repr, Inhabited

/-- The variables that an explicit projection returns, item by item. -/
def Projection.names : Projection → List (Option String)
  | .all => []
  | .items list => list.map SelectItem.name?

/-- The sections of a query. An absent section is `none`. -/
structure Query where
  /-- `SELECT`, `CONSTRUCT`, `ASK` or `DESCRIBE`. -/
  queryType : Option String
  /-- `query` or `update`. -/
  kind : Option String
  /-- The prefix declarations. -/
  prefixes : Prefixes
  /-- The projection. -/
  projection : Option Projection
  /-- The WHERE clause. -/
  patterns : Option (List Pattern)
  deriving Inhabited

namespace Query

/-- A query without any sections. -/
def empty : Query := ⟨none, none, .empty, none, none⟩

/-- The patterns of the WHERE clause; an absent clause has none. -/
def wherePatterns (q : Query) : List Pattern := q.patterns.getD []

/-- The name of a query that says neither its type nor its kind. -/
def unknownType : String := "UNKNOWN"

/-- The name under which a query is shown: its type, or else its kind; an empty text counts as
absent. -/
def typeName (q : Query) : String :=
  ([q.queryType, q.kind].filterMap id |>.find? (· ≠ "")).getD unknownType

/-- The variables that the query returns: those of an explicit projection of a SELECT. -/
def selectedNames (q : Query) : List String :=
  if q.queryType = some "SELECT" then (q.projection.map Projection.names).getD [] |>.filterMap id
  else []

/-- The keys of the returned variables, each once, in the order of their text. -/
def selectedKeys (q : Query) : List String :=
  ((q.selectedNames.map fun name => (Term.var name).key).eraseDups).mergeSort
    fun a b => decide (a ≤ b)

/-- A key is selected when it belongs to a returned variable. -/
theorem mem_selectedKeys {q : Query} {key : String} :
    key ∈ q.selectedKeys ↔ ∃ name ∈ q.selectedNames, (Term.var name).key = key := by
  simp [selectedKeys]

end Query

end QueryGraph
