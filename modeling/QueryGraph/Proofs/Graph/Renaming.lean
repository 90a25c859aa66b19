import QueryGraph.Proofs.Graph.Roles
import QueryGraph.Proofs.Sparql.Renaming

/-!
# `Proofs.Graph.Renaming` — names play no part in how a graph is drawn

A graph is put together with the help of texts: nodes are found by their keys, returned variables by
membership of a key in a list, classes and individuals by the ids at the ends of edges. All of these
commute with new names, because keys differ after a renaming exactly where they differed before. So the
graph of a renamed query is the graph of the query with the new names written into it.

Writing them in needs the graph only, with one exception: an edge has the label of the graph around its
triple, and a label does not tell whether it is that of a variable or of an IRI that starts with a
question mark. There the name itself has to be known (`Query.graphName?`).

## Contents
- `Renaming.id`, `Renaming.label` — ids and labels under new names.
- `Node.rename`, `Edge.rename`, `GraphModel.rename` — a graph with the new names written into it.
- `walkAll_map_rename`, `flatten_rename` — the triples of a renamed tree.
- `typed_node_rename` — a node of a renamed query, when the type edges have been taken into account.
- `Query.build_rename` — the main statement.
-/

namespace QueryGraph

/-! ## A graph under new names -/

namespace Renaming

variable (r : Renaming)

/-- The id of a node under new names: variables and blank nodes have their names behind the word for
their kind. -/
def id (id : String) : String :=
  match id.toList with
  | 'v' :: 'a' :: 'r' :: ':' :: '?' :: name => "var:?" ++ r.var (String.ofList name)
  | 'b' :: 'n' :: 'o' :: 'd' :: 'e' :: ':' :: name => "bnode:" ++ r.blank (String.ofList name)
  | _ => id

/-- The label of a term of the given kind under new names. -/
def label (kind : NodeKind) (label : String) : String :=
  match kind, label.toList with
  | .var, '?' :: name => "?" ++ r.var (String.ofList name)
  | .blank, '_' :: ':' :: name => "_:" ++ r.blank (String.ofList name)
  | _, _ => label

/-- The id of a term becomes that of the renamed term. -/
theorem id_key (t : Term) : r.id t.key = (t.rename r).key := by
  cases t <;> simp [id, Term.key, Term.rename, Term.unknownKey, String.toList_append]

/-- The label of a term becomes that of the renamed term. -/
theorem label_label (prefixes : Prefixes) (t : Term) :
    r.label t.nodeKind (t.label prefixes) = (t.rename r).label prefixes := by
  cases t <;> simp [label, Term.label, Term.nodeKind, Term.rename, String.toList_append]

/-- An IRI that looks like a variable keeps its label. -/
example : r.label .iri "?x" = "?x" := rfl

end Renaming

/-- A node under new names. -/
def Node.rename (r : Renaming) (n : Node) : Node :=
  { n with id := r.id n.id, label := r.label n.kind n.label }

/-- An edge under new names, as the edge with the given number and inside the graph with the given
name. -/
def Edge.rename (r : Renaming) (number : Nat) (graphName : Option Term) (e : Edge) : Edge :=
  { e with
    id := edgeId (r.id e.source) e.label (r.id e.target) number
    source := r.id e.source
    target := r.id e.target
    graph := do return r.label (← graphName).nodeKind (← e.graph) }

/-- A graph under new names; `graphName` says inside which graph the triple of an edge stands. -/
def GraphModel.rename (r : Renaming) (graphName : Nat → Option Term) (g : GraphModel) : GraphModel :=
  { g with
    nodes := g.nodes.map (Node.rename r)
    edges := g.edges.mapIdx fun i e => e.rename r i (graphName i) }

/-! ## The triples of a renamed tree -/

/-- A scope under new names. -/
def Scope.rename (r : Renaming) (s : Scope) : Scope := { s with graph := s.graph.map (Term.rename r) }

/-- A triple and its scope under new names. -/
def ScopedTriple.rename (r : Renaming) (s : ScopedTriple) : ScopedTriple :=
  ⟨s.triple.rename r, s.scope.rename r⟩

/-- What a walk leaves behind, under new names. -/
def Walk.rename (r : Renaming) (w : Walk) : Walk :=
  { w with triples := w.triples.map (ScopedTriple.rename r) }

section Walks

variable {r : Renaming}

theorem Walk.rename_andThen (v : Walk) (f : Nat → Walk) :
    (v.andThen f).rename r = (v.rename r).andThen fun n => (f n).rename r := by
  simp [Walk.rename, Walk.andThen]

/-- A pattern is walked over alike under new names, and so are patterns side by side. -/
theorem walkAll_map_rename {ps : List Pattern}
    (ih : ∀ p ∈ ps, ∀ s u, (p.rename r).walk (s.rename r) u = (p.walk s u).rename r)
    (s : Scope) (u : Nat) :
    walkAll (s.rename r) u (ps.map (Pattern.rename r)) = (walkAll s u ps).rename r := by
  induction ps generalizing u with
  | nil => rfl
  | cons p ps ih' =>
      rw [List.map_cons, walkAll, walkAll, Walk.rename_andThen, ih p List.mem_cons_self]
      congr 1
      funext n
      exact ih' (fun q hq => ih q (List.mem_cons_of_mem p hq)) n

/-- So are the branches of a union. -/
theorem walkBranches_map_rename {bs : List (List Pattern)}
    (ih : ∀ ps ∈ bs, ∀ p ∈ ps, ∀ s u, (p.rename r).walk (s.rename r) u = (p.walk s u).rename r)
    (s : Scope) (union branch u : Nat) :
    walkBranches (s.rename r) union branch u (bs.map fun ps => ps.map (Pattern.rename r)) =
      (walkBranches s union branch u bs).rename r := by
  induction bs generalizing branch u with
  | nil => rfl
  | cons ps bs ih' =>
      have hbranch : (s.rename r).insideBranch union branch = (s.insideBranch union branch).rename r :=
        rfl
      rw [List.map_cons, walkBranches, walkBranches, Walk.rename_andThen, hbranch,
        walkAll_map_rename (ih ps List.mem_cons_self)]
      congr 1
      funext n
      exact ih' (fun qs hqs => ih qs (List.mem_cons_of_mem ps hqs)) (branch + 1) n

/-- **A pattern is walked over alike under new names**, in any scope and from any union on. -/
theorem Pattern.walk_rename (p : Pattern) (s : Scope) (u : Nat) :
    (p.rename r).walk (s.rename r) u = (p.walk s u).rename r := by
  induction p using Pattern.rename.induct generalizing s u with
  | case1 triples =>
      rw [rename, walk, walk, List.map_map, Walk.rename, List.map_map]
      rfl
  | case2 patterns ih =>
      rw [rename, walk, walk]
      exact walkAll_map_rename ih s.insideOptional u
  | case3 branches ih =>
      rw [rename, walk, walk]
      exact walkBranches_map_rename ih s u 0 (u + 1)
  | case4 patterns ih =>
      rw [rename, walk, walk]
      exact walkAll_map_rename ih s u
  | case5 name patterns ih =>
      rw [rename, walk, walk]
      exact walkAll_map_rename ih (s.insideGraph name) u
  | case6 kind =>
      rw [rename, walk, walk]
      rfl

/-- **The triples of a renamed tree** are those of the tree under new names, in the same order and in
the same scopes. -/
theorem flatten_rename (ps : List Pattern) :
    flatten (ps.map (Pattern.rename r)) = (flatten ps).map (ScopedTriple.rename r) :=
  congrArg Walk.triples (walkAll_map_rename (fun p _ => p.walk_rename) .root 0)

/-- So are their endpoints. -/
theorem endpoints_map_rename (ts : List ScopedTriple) :
    endpoints (ts.map (ScopedTriple.rename r)) = (endpoints ts).map (Term.rename r) := by
  induction ts with
  | nil => rfl
  | cons s ts ih =>
      rw [List.map_cons, endpoints_cons, endpoints_cons, ih]
      rfl

end Walks

/-! ## Predicates under new names -/

/-- The label of an edge is never a name. -/
theorem edgeLabel_rename (r : Renaming) (prefixes : Prefixes) (p : Predicate) :
    edgeLabel prefixes (p.rename r) = edgeLabel prefixes p := by
  cases p with
  | term t => cases t <;> rw [Predicate.rename] <;> rfl
  | path op ps =>
      rw [Predicate.rename]
      rfl

/-- What a triple says does not depend on names. -/
theorem edgeCategory_rename (r : Renaming) (annotations : Annotations) (p : Predicate) (o : Term) :
    edgeCategory annotations (p.rename r) (o.rename r) = edgeCategory annotations p o := by
  cases p with
  | term t =>
      rw [Predicate.rename]
      simp only [edgeCategory, Term.asIri?_rename]
      cases o <;> rfl
  | path op ps =>
      rw [Predicate.rename]
      rfl

/-- A type triple stays one, and no other triple becomes one. -/
theorem Triple.isType_rename (r : Renaming) (t : Triple) : (t.rename r).IsType ↔ t.IsType := by
  have hcategory : ∀ u : Triple,
      edgeCategory .empty u.predicate u.object = .rdfType ↔ u.IsType :=
    fun _ => edgeCategory_eq_rdfType_iff
  have hrename : edgeCategory .empty (t.rename r).predicate (t.rename r).object =
      edgeCategory .empty t.predicate t.object :=
    edgeCategory_rename r .empty t.predicate t.object
  rw [← hcategory, ← hcategory, hrename]

namespace Query

variable {q : Query} {r : Renaming} {a : Annotations}

/-! ## Edges -/

/-- The name of the innermost graph around the triple with the given number. -/
def graphName? (q : Query) (i : Nat) : Option Term := q.scopedTriples[i]?.bind fun s => s.scope.graph

theorem scopedTriples_rename (q : Query) (r : Renaming) :
    (q.rename r).scopedTriples = q.scopedTriples.map (ScopedTriple.rename r) := by
  rw [scopedTriples, wherePatterns_rename, flatten_rename]
  rfl

theorem triples_rename (q : Query) (r : Renaming) :
    (q.rename r).triples = q.triples.map (Triple.rename r) := by
  rw [triples, triples, scopedTriples_rename, List.map_map, List.map_map]
  rfl

/-- **The edge of a renamed triple** is the edge of the triple under new names. -/
theorem edge_rename (i : Nat) (s : ScopedTriple) :
    Drawing.edge ((q.rename r).pen a) i (s.rename r) =
      (Drawing.edge (q.pen a) i s).rename r i s.scope.graph := by
  have hgraph : (s.scope.graph.map (Term.rename r)).map (Term.label q.prefixes) =
      (do return r.label (← s.scope.graph).nodeKind (← s.scope.graph.map (Term.label q.prefixes))) := by
    cases s.scope.graph with
    | none => rfl
    | some name => exact congrArg some (r.label_label q.prefixes name).symm
  have hlabel := edgeLabel_rename r q.prefixes s.triple.predicate
  have hcategory := edgeCategory_rename r a s.triple.predicate s.triple.object
  have hsource := r.id_key s.triple.subject
  have htarget := r.id_key s.triple.object
  simp only [Drawing.edge, Edge.rename, pen, hsource, htarget]
  simp only [Query.rename, ScopedTriple.rename, Scope.rename, Triple.rename, hgraph, hlabel, hcategory]

/-- **The edges of a renamed query** are the edges of the query under new names. -/
theorem edges_build_rename (q : Query) (r : Renaming) (a : Annotations) :
    ((q.rename r).build a).edges =
      (q.build a).edges.mapIdx fun i e => e.rename r i (q.graphName? i) := by
  rw [edges_build, edges_build, scopedTriples_rename]
  apply List.ext_getElem?
  intro i
  rw [List.getElem?_mapIdx, List.getElem?_mapIdx, List.getElem?_map, List.getElem?_mapIdx, graphName?]
  cases q.scopedTriples[i]? with
  | none => rfl
  | some s => exact congrArg some (edge_rename i s)

/-! ## Nodes -/

/-- The nodes come from the same terms: a term is the first with its key after the renaming exactly if
it was before. -/
theorem firstBy_endpoints_rename (q : Query) (r : Renaming) :
    firstBy Term.key (endpoints (q.rename r).scopedTriples) =
      (firstBy Term.key (endpoints q.scopedTriples)).map (Term.rename r) := by
  have hkey : (fun s t : Term => (s.rename r).key == (t.rename r).key) = fun s t => s.key == t.key := by
    funext s t
    rw [Bool.eq_iff_iff, beq_iff_eq, beq_iff_eq]
    exact Term.key_rename_eq_iff r
  rw [scopedTriples_rename, endpoints_map_rename, firstBy_map]
  unfold firstBy
  rw [hkey]

/-- **The type triples lead to the same terms**, under new names. -/
theorem typeObject_rename {t : Term} :
    TypeObject (q.rename r).triples (t.rename r).key ↔ TypeObject q.triples t.key := by
  rw [triples_rename]
  simp only [TypeObject, List.mem_map, exists_exists_and_eq_and, Triple.isType_rename]
  exact exists_congr fun u => and_congr_right fun _ => and_congr_right fun _ =>
    Term.key_rename_eq_iff r

/-- They come from the same terms, too. -/
theorem typeSubject_rename {t : Term} :
    TypeSubject (q.rename r).triples (t.rename r).key ↔ TypeSubject q.triples t.key := by
  rw [triples_rename]
  simp only [TypeSubject, List.mem_map, exists_exists_and_eq_and, Triple.isType_rename]
  exact exists_congr fun u => and_congr_right fun _ => and_congr_right fun _ =>
    Term.key_rename_eq_iff r

/-- A new node of a renamed query is the new node of the query under new names. -/
theorem node_rename (t : Term) :
    ((q.rename r).pen a).node (t.rename r) = ((q.pen a).node t).rename r := by
  have hlabel := r.label_label q.prefixes t
  have hselected := q.contains_selectedKeys_rename r t
  have hid := r.id_key t
  simp only [Pen.node, NodeTable.newNode, Node.rename, pen, hselected, hid, Term.nodeKind_rename, hlabel]
  rfl

/-- **A node of a renamed query** has become what the node of the query has become, when all edges have
been taken into account. -/
theorem typed_node_rename (t : Term) :
    (((q.rename r).pen a).node (t.rename r)).typed ((q.rename r).build a).edges =
      (((q.pen a).node t).typed (q.build a).edges).rename r := by
  have hleads : LeadsTo ((q.rename r).build a).edges (t.rename r).key ↔
      LeadsTo (q.build a).edges t.key := by
    rw [leadsTo_build_iff, leadsTo_build_iff, typeObject_rename]
  have hcomes : ComesFrom ((q.rename r).build a).edges (t.rename r).key ↔
      ComesFrom (q.build a).edges t.key := by
    rw [comesFrom_build_iff, comesFrom_build_iff, typeSubject_rename]
  have hcategory : (((q.rename r).pen a).node (t.rename r)).typedCategory
      ((q.rename r).build a).edges = ((q.pen a).node t).typedCategory (q.build a).edges := by
    have hid : (((q.rename r).pen a).node (t.rename r)).id = (t.rename r).key := rfl
    have hkind : (((q.rename r).pen a).node (t.rename r)).kind = t.nodeKind := t.nodeKind_rename r
    have hnew : (((q.rename r).pen a).node (t.rename r)).category = t.nodeKind.category :=
      congrArg NodeKind.category (t.nodeKind_rename r)
    rw [Node.typedCategory, hid, hkind, hnew]
    simp only [hleads, hcomes]
    rfl
  rw [Node.typed, hcategory, node_rename]
  rfl

/-- **The nodes of a renamed query** are the nodes of the query under new names. -/
theorem nodes_build_rename (q : Query) (r : Renaming) (a : Annotations) :
    ((q.rename r).build a).nodes = (q.build a).nodes.map (Node.rename r) := by
  rw [nodes_build, nodes_build, firstBy_endpoints_rename, List.map_map, List.map_map]
  exact List.map_congr_left fun t _ => typed_node_rename t

/-! ## The graph -/

/-- **The graph of a renamed query is the graph of the query under new names.** Its nodes and edges are
as many and in the same order; ids, ends of edges, and labels of variables, of blank nodes and of graphs
named by either have the new names in them; and all else is the same. -/
theorem build_rename (q : Query) (r : Renaming) (a : Annotations) :
    (q.rename r).build a = (q.build a).rename r q.graphName? := by
  apply GraphModel.ext
  case queryType => rfl
  case prefixes => rfl
  case nodes => exact nodes_build_rename q r a
  case edges => exact edges_build_rename q r a
  case tripleCount =>
    show ((q.rename r).build a).tripleCount = (q.build a).tripleCount
    rw [tripleCount_build, tripleCount_build, wherePatterns_rename, flatten_rename, List.length_map]

end Query

end QueryGraph
