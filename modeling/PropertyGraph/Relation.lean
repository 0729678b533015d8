import PropertyGraph.Direction
import PropertyGraph.Schema.Descriptor

/-!
# Relations

A relation is an edge between two vertices or a property of one vertex.
Relations of one scope are the same exactly when their ids are.
-/

namespace PropertyGraph

structure Edge where
  id : RelationId
  label : EdgeLabel
  source : VertexId
  target : VertexId
  deriving DecidableEq

namespace Edge

def isLoop (edge : Edge) : Bool := edge.source = edge.target

/-- The endpoint on a side; a request for both sides yields the source. -/
def endpoint (edge : Edge) : Direction → VertexId
  | .incoming => edge.target
  | .outgoing => edge.source
  | .both => edge.source

/-- The endpoint opposite to a vertex, which is the vertex itself for a loop. -/
def other? (edge : Edge) (vertex : VertexId) : Option VertexId :=
  if edge.source = vertex then some edge.target
  else if edge.target = vertex then some edge.source
  else none

def startsFrom (edge : Edge) (vertex : VertexId) : Bool := edge.source = vertex

def endsAt (edge : Edge) (vertex : VertexId) : Bool := edge.target = vertex

def same (first second : Edge) : Bool := first.id = second.id

end Edge

structure Property where
  id : RelationId
  key : PropertyKey
  owner : VertexId
  value : Value

def Property.same (first second : Property) : Bool := first.id = second.id

inductive Relation where
  | edge (edge : Edge)
  | property (property : Property)

namespace Relation

def id : Relation → RelationId
  | edge e => e.id
  | property p => p.id

def typeId : Relation → SchemaId
  | edge e => e.label.id
  | property p => p.key.id

def typeName : Relation → String
  | edge e => e.label.name
  | property p => p.key.name

def edge? : Relation → Option Edge
  | edge e => some e
  | property _ => none

def property? : Relation → Option Property
  | edge _ => none
  | property p => some p

def isEdge (relation : Relation) : Bool := relation.edge?.isSome

def isProperty (relation : Relation) : Bool := relation.property?.isSome

/-- The vertices that the relation belongs to, each once. -/
def endpoints : Relation → List VertexId
  | edge e => if e.isLoop then [e.source] else [e.source, e.target]
  | property p => [p.owner]

def isIncidentOn (relation : Relation) (vertex : VertexId) : Bool :=
  match relation with
  | edge e => e.source = vertex || e.target = vertex
  | property p => p.owner = vertex

/-- Whether two relations are of one sort and have the same id. -/
def same : Relation → Relation → Bool
  | edge first, edge second => first.same second
  | property first, property second => first.same second
  | _, _ => false

/-- A relation belongs to exactly its endpoints. -/
theorem mem_endpoints_iff (relation : Relation) (vertex : VertexId) :
    vertex ∈ relation.endpoints ↔ relation.isIncidentOn vertex = true := by
  cases relation with
  | edge e =>
    by_cases loop : e.source = e.target
    · simp [endpoints, isIncidentOn, Edge.isLoop, loop, @eq_comm _ vertex]
    · simp [endpoints, isIncidentOn, Edge.isLoop, loop, @eq_comm _ vertex]
  | property p => simp [endpoints, isIncidentOn, @eq_comm _ vertex]

end Relation

end PropertyGraph
