import QueryGraph.Graph.Model

/-!
# `Graph.Event` — what is reported while a graph is built

Each event has a level, the part of the program it comes from, a message and named fields.
-/

namespace QueryGraph

/-- How much detail an event is, from the most important to the least. -/
inductive Level where
  | error
  | warn
  | info
  | debug
  | trace
  deriving DecidableEq, Repr, Inhabited

namespace Level

/-- The detail of a level as a number. -/
def detail : Level → Nat
  | error => 1
  | warn => 2
  | info => 3
  | debug => 4
  | trace => 5

/-- The name of a level. -/
def name : Level → String
  | error => "ERROR"
  | warn => "WARN"
  | info => "INFO"
  | debug => "DEBUG"
  | trace => "TRACE"

end Level

/-- Something that happened while a graph was built. -/
inductive Event where
  /-- A pattern that is not drawn. -/
  | skipped (kind : String)
  /-- A node came to the table. -/
  | newNode (id : String) (kind : NodeKind)
  /-- The graph is complete. -/
  | built (queryType : String) (triples nodes edges : Nat)
  deriving DecidableEq, Repr

/-- The name of a kind of node in events. -/
def NodeKind.name : NodeKind → String
  | var => "Variable"
  | iri => "Iri"
  | blank => "Blank"
  | literal => "Literal"

namespace Event

/-- The level of an event. -/
def level : Event → Level
  | skipped _ | built .. => .debug
  | newNode .. => .trace

/-- The part of the program that reports the event. -/
def target : Event → String
  | skipped _ => "sparql2graph::graph::flatten"
  | newNode .. => "sparql2graph::graph::nodes"
  | built .. => "sparql2graph::graph::builder"

/-- The message of an event. -/
def message : Event → String
  | skipped _ => "skipping pattern group"
  | newNode .. => "new node"
  | built .. => "built graph model"

/-- The fields of an event. -/
def fields : Event → List (String × String)
  | skipped kind => [("kind", kind)]
  | newNode id kind => [("id", id), ("kind", kind.name)]
  | built queryType triples nodes edges =>
    [("query_type", queryType), ("triples", toString triples), ("nodes", toString nodes),
      ("edges", toString edges)]

/-- The names of what an event carries: its message and its fields. -/
def fieldNames (e : Event) : List String := "message" :: e.fields.map Prod.fst

/-- An event on one line: level, target, message, then the fields. -/
def line (e : Event) : String :=
  e.fields.foldl (fun text field => text ++ " " ++ field.1 ++ "=" ++ field.2)
    (e.level.name ++ " " ++ e.target ++ ": " ++ e.message)

end Event

end QueryGraph
