import QueryGraph.Graph.Model
import QueryGraph.Json.Printer

/-!
# `Graph.Document` — graphs as JSON values

Two forms: one object for the whole graph, or the list of elements that Cytoscape takes. What is not
there is left out: an edge has the members `optional`, `branches` and `graph` only when they say
something.

## Contents
- `Prefixes.toJson`, `Node.toJson`, `Edge.toJson`, `GraphModel.toJson` — the first form.
- `GraphModel.toElements` — the second form.
- `Format`, `GraphModel.document` — the written document.
-/

namespace QueryGraph

open Json

/-- A natural number as a JSON value. -/
def natToJson (n : Nat) : Value := .number (.integer n)

/-- Declarations as an object, in order. -/
def Prefixes.toJson (p : Prefixes) : Value :=
  .object (p.entries.map fun d => (d.1, .string d.2))

/-- A node as an object. -/
def Node.toJson (n : Node) : Value :=
  .object [("id", .string n.id), ("label", .string n.label), ("kind", .string n.kind.word),
    ("category", .string n.category.word), ("isSelectedVar", .bool n.isSelected)]

/-- A union branch as an object. -/
def BranchRef.toJson (b : BranchRef) : Value :=
  .object [("union", natToJson b.union), ("branch", natToJson b.branch)]

/-- The members of an edge that are there only when they say something. -/
def Edge.scopeMembers (e : Edge) : List (String × Value) :=
  (if e.optional then [("optional", .bool true)] else [])
    ++ (if e.branches.isEmpty then [] else [("branches", .array (e.branches.map BranchRef.toJson))])
    ++ (e.graph.map fun label => ("graph", .string label)).toList

/-- An edge as an object. -/
def Edge.toJson (e : Edge) : Value :=
  .object ([("id", .string e.id), ("source", .string e.source), ("target", .string e.target),
    ("label", .string e.label), ("category", .string e.category.word),
    ("effect", .string e.effect.word)] ++ e.scopeMembers)

/-- A graph as an object. -/
def GraphModel.toJson (g : GraphModel) : Value :=
  .object [("queryType", .string g.queryType), ("prefixes", g.prefixes.toJson),
    ("nodes", .array (g.nodes.map Node.toJson)), ("edges", .array (g.edges.map Edge.toJson)),
    ("whereTripleCount", natToJson g.tripleCount)]

/-- An element of the second form. -/
def element (data : Value) : Value := .object [("data", data)]

/-- A graph as a list of elements: the nodes, then the edges. -/
def GraphModel.toElements (g : GraphModel) : Value :=
  .array (g.nodes.map (fun n => element n.toJson) ++ g.edges.map fun e => element e.toJson)

/-! ## Documents -/

/-- The form of a document. -/
inductive Format where
  /-- One object. -/
  | json
  /-- A list of elements. -/
  | cytoscape
  deriving DecidableEq, Repr, Inhabited

/-- A graph as a JSON value of the given form. -/
def GraphModel.toValue (g : GraphModel) : Format → Value
  | .json => g.toJson
  | .cytoscape => g.toElements

/-- A graph as a document, with a line feed at the end. -/
def GraphModel.document (g : GraphModel) (format : Format) (layout : Layout) : String :=
  (g.toValue format).document layout

end QueryGraph
