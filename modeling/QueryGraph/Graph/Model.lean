import QueryGraph.Graph.Scope

/-!
# `Graph.Model` — the graph of a query

Nodes stand for terms, edges for triples. This module holds the data and the words used for it in
output; how a graph comes about is the matter of `Graph.Build`.
-/

namespace QueryGraph

/-! ## Nodes -/

/-- The kind of term that a node stands for. -/
inductive NodeKind where
  | var
  | iri
  | blank
  | literal
  deriving DecidableEq, Repr, Inhabited

/-- The word for a kind in output. -/
def NodeKind.word : NodeKind → String
  | var => "variable"
  | iri => "iri"
  | blank => "blank"
  | literal => "literal"

/-- The kind of node that a term is drawn as. Unknown terms are drawn like IRIs. -/
def Term.nodeKind : Term → NodeKind
  | var _ => .var
  | iri _ | unknown => .iri
  | blank _ => .blank
  | literal _ => .literal

/-- The role of a node. -/
inductive NodeCategory where
  /-- Something that others are instances of. -/
  | ontologyClass
  /-- An instance of a class. -/
  | individual
  | literal
  | var
  /-- Nothing is known. -/
  | unknown
  deriving DecidableEq, Repr, Inhabited

/-- The word for a category in output. -/
def NodeCategory.word : NodeCategory → String
  | ontologyClass => "class"
  | individual => "individual"
  | literal => "literal"
  | var => "variable"
  | unknown => "unknown"

/-- The category of a node before any of its triples is looked at. -/
def NodeKind.category : NodeKind → NodeCategory
  | var => .var
  | literal => .literal
  | iri | blank => .unknown

/-- A node. -/
structure Node where
  /-- The key of the terms it stands for. -/
  id : String
  /-- The text shown for it. -/
  label : String
  kind : NodeKind
  category : NodeCategory
  /-- Whether it is a variable that the query returns. -/
  isSelected : Bool
  deriving DecidableEq, Repr, Inhabited

/-! ## Edges -/

/-- What a triple says, judged by its predicate and object. -/
inductive EdgeCategory where
  /-- The object is the class of the subject. -/
  | rdfType
  /-- The object is a thing. -/
  | objectProperty
  /-- The object is a value. -/
  | datatypeProperty
  /-- The object is a text for people to read. -/
  | annotationProperty
  /-- The predicate is a property path. -/
  | path
  deriving DecidableEq, Repr, Inhabited

/-- The word for a category in output. -/
def EdgeCategory.word : EdgeCategory → String
  | rdfType => "rdfType"
  | objectProperty => "objectProp"
  | datatypeProperty => "datatypeProp"
  | annotationProperty => "annotationProp"
  | path => "path"

/-- How an edge changes between two graphs. The graph of a query changes nothing. -/
inductive EdgeEffect where
  | unchanged
  | insert
  | delete
  deriving DecidableEq, Repr, Inhabited

/-- The word for an effect in output. -/
def EdgeEffect.word : EdgeEffect → String
  | unchanged => "none"
  | insert => "insert"
  | delete => "delete"

/-- An edge. -/
structure Edge where
  id : String
  /-- The node of the subject. -/
  source : String
  /-- The node of the object. -/
  target : String
  /-- The text shown for the predicate. -/
  label : String
  category : EdgeCategory
  effect : EdgeEffect
  /-- Whether the triple is inside an OPTIONAL block. -/
  optional : Bool
  /-- The union branches around the triple, the outermost first. -/
  branches : List BranchRef
  /-- The label of the innermost graph name around the triple. -/
  graph : Option String
  deriving DecidableEq, Repr, Inhabited

/-! ## Graphs -/

/-- The graph of a query. -/
structure GraphModel where
  /-- The name under which the query is shown. -/
  queryType : String
  prefixes : Prefixes
  /-- In the order in which their terms are first met. -/
  nodes : List Node
  /-- In the order of the triples. -/
  edges : List Edge
  /-- The number of triples in the WHERE clause. -/
  tripleCount : Nat
  deriving DecidableEq, Inhabited

/-- The node with the given id. -/
def GraphModel.node? (g : GraphModel) (id : String) : Option Node :=
  g.nodes.find? fun n => n.id = id

/-- A node that is found has the id it was looked for under. -/
theorem GraphModel.id_of_node? {g : GraphModel} {id : String} {n : Node} (h : g.node? id = some n) :
    n.id = id := by
  simpa using List.find?_some h

end QueryGraph
