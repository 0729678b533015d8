import PropertyGraph.Scope.Basic

/-!
# Queries

A query asks for what is around one vertex: a direction, groups of labels and
keys, and a limit.  It holds no graph, so it can be asked again after changes.
Each group admits any of its members and all groups must admit; a name or
descriptor that the catalog does not know admits nothing.  Properties count as
outgoing.
-/

namespace PropertyGraph

inductive TypeRef where
  | name (name : String)
  /-- The descriptor of an id, provided that the catalog has it under this name. -/
  | descriptor (id : SchemaId) (name : String)
  deriving DecidableEq

namespace Directory

variable {δ : Type} [Catalogued δ]

/-- The id that a reference stands for. -/
def resolve? (directory : Directory δ) : TypeRef → Option SchemaId
  | .name name => (directory.find? name).map Catalogued.id
  | .descriptor id name => (directory.matching? id name).map Catalogued.id

/-- The restriction to ids that every group of references admits. -/
def typeFilter (directory : Directory δ) (groups : List (List TypeRef)) : TypeFilter :=
  groups.foldl (fun filter group => filter.and (.only (group.filterMap directory.resolve?))) .any

end Directory

/-- A request for relations around a vertex. -/
structure Query where
  vertex : VertexId
  direction : Direction
  labels : List (List TypeRef)
  keys : List (List TypeRef)
  limit : Option Nat
  deriving DecidableEq

namespace Query

def around (vertex : VertexId) : Query := ⟨vertex, .both, [], [], none⟩

def toward (query : Query) (direction : Direction) : Query :=
  { query with direction := direction }

/-- Restrict the edges to a group of labels; the empty group is no restriction. -/
def withLabels (query : Query) (group : List TypeRef) : Query :=
  if group.isEmpty then query else { query with labels := query.labels ++ [group] }

def withKeys (query : Query) (group : List TypeRef) : Query :=
  if group.isEmpty then query else { query with keys := query.keys ++ [group] }

def atMost (query : Query) (limit : Nat) : Query := { query with limit := some limit }

def cut (query : Query) {α : Type} (answers : List α) : List α :=
  match query.limit with
  | none => answers
  | some limit => answers.take limit

end Query

namespace Arena

/-- The relation that an entry of a vertex refers to: live and incident on the vertex. -/
def incident (arena : Arena) (vertex : VertexId) (entry : Entry) : Except Violation Relation :=
  match (arena.relation? entry.relation).filter (·.isIncidentOn vertex) with
  | some relation => .ok relation
  | none => .error (.foreignRelation vertex entry.relation)

def allIncident (arena : Arena) (vertex : VertexId) :
    List Entry → Except Violation (List Relation)
  | [] => .ok []
  | entry :: rest =>
    match arena.incident vertex entry with
    | .error violation => .error violation
    | .ok relation => (arena.allIncident vertex rest).map (relation :: ·)

end Arena

namespace Query

def labelFilter (query : Query) (catalog : Catalog) : TypeFilter :=
  catalog.edgeLabels.typeFilter query.labels

def keyFilter (query : Query) (catalog : Catalog) : TypeFilter :=
  catalog.propertyKeys.typeFilter query.keys

/-- The index of the queried vertex, without entries if the vertex is not live. -/
def index (query : Query) (scope : Scope) : Index :=
  ((scope.arena.vertex? query.vertex).map Vertex.index).getD .empty

/-- The matching edges as relations, without regard to the limit. -/
def edgeRelations (query : Query) (scope : Scope) (catalog : Catalog) :
    Except Violation (List Relation) :=
  let entries := (query.index scope).edges query.direction (query.labelFilter catalog)
  scope.arena.allIncident query.vertex (entries.map Prod.snd)

def propertyRelations (query : Query) (scope : Scope) (catalog : Catalog) :
    Except Violation (List Relation) :=
  if query.direction.admits .outgoing then
    scope.arena.allIncident query.vertex
      ((query.index scope).propertiesOf (query.keyFilter catalog))
  else .ok []

/-- The matching edges: outgoing ones, then incoming ones. -/
def edges (query : Query) (scope : Scope) (catalog : Catalog) : Except Violation (List Edge) :=
  (query.edgeRelations scope catalog).map fun relations =>
    query.cut (relations.filterMap Relation.edge?)

def properties (query : Query) (scope : Scope) (catalog : Catalog) :
    Except Violation (List Property) :=
  (query.propertyRelations scope catalog).map fun relations =>
    query.cut (relations.filterMap Relation.property?)

/-- Whether edges are asked for: not if only keys are named. -/
def wantsEdges (query : Query) : Bool := !query.labels.isEmpty || query.keys.isEmpty

def wantsProperties (query : Query) : Bool := !query.keys.isEmpty || query.labels.isEmpty

def relations (query : Query) (scope : Scope) (catalog : Catalog) :
    Except Violation (List Relation) :=
  let edges := if query.wantsEdges then query.edgeRelations scope catalog else .ok []
  let properties :=
    if query.wantsProperties then query.propertyRelations scope catalog else .ok []
  match edges, properties with
  | .ok edges, .ok properties => .ok (query.cut (edges ++ properties))
  | .error violation, _ => .error violation
  | _, .error violation => .error violation

/-- The vertices at the other ends of the matching edges. -/
def vertices (query : Query) (scope : Scope) (catalog : Catalog) :
    Except Violation (List VertexId) :=
  (query.edges scope catalog).map fun edges => edges.filterMap (·.other? query.vertex)

def count (query : Query) (scope : Scope) (catalog : Catalog) : Except Violation Nat :=
  (query.relations scope catalog).map List.length

/-- The number of matching edge entries; under both directions a loop counts twice. -/
def edgeCount (query : Query) (scope : Scope) (catalog : Catalog) : Nat :=
  let degree := (query.index scope).countEdges query.direction (query.labelFilter catalog)
  match query.limit with
  | none => degree
  | some limit => min degree limit

def propertyCount (query : Query) (scope : Scope) (catalog : Catalog) : Except Violation Nat :=
  (query.properties scope catalog).map List.length

end Query

end PropertyGraph
