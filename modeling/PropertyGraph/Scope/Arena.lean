import PropertyGraph.Incidence.Index
import PropertyGraph.Relation
import PropertyGraph.Slots

/-!
# Arenas

An arena holds vertices and relations in numbered slots.  Each vertex has an
index of the relations incident on it; attaching and detaching a relation
changes the relation's slot and the index of every endpoint together.
-/

namespace PropertyGraph

/-- A vertex with its label, its index, and whether it changed in the current scope. -/
structure Vertex where
  id : VertexId
  label : VertexLabel
  index : Index
  modified : Bool
  deriving DecidableEq

namespace Vertex

/-- The number of edge entries; a loop counts twice. -/
def edgeCount (vertex : Vertex) : Nat := vertex.index.edgeCount

def propertyCount (vertex : Vertex) : Nat := vertex.index.propertyCount

def isConnected (vertex : Vertex) : Bool := vertex.index.hasEdges

end Vertex

/-- Vertices and relations in numbered slots, with the number of each that are live. -/
structure Arena where
  vertices : Slots Vertex
  relations : Slots Relation
  vertexCount : Nat
  relationCount : Nat

namespace Arena

def fresh : Arena := ⟨.fresh, .fresh, 0, 0⟩

def vertex? (arena : Arena) (id : VertexId) : Option Vertex := arena.vertices.get? id.number

def relation? (arena : Arena) (id : RelationId) : Option Relation :=
  arena.relations.get? id.number

def vertexIds (arena : Arena) : List VertexId := arena.vertices.live.map Vertex.id

def modifiedVertices (arena : Arena) : List Vertex :=
  arena.vertices.live.filter Vertex.modified

def addVertex (arena : Arena) (label : VertexLabel) : VertexId × Arena :=
  let id : VertexId := ⟨arena.vertices.next⟩
  (id, { arena with
    vertices := arena.vertices.push ⟨id, label, .empty, false⟩
    vertexCount := arena.vertexCount + 1 })

/-- Change the index of a vertex and mark the vertex as modified. -/
def changeIndex (arena : Arena) (id : VertexId) (change : Index → Except Violation Index) :
    Except Violation Arena :=
  match arena.vertex? id with
  | none => .error (.vanishedVertex id)
  | some vertex =>
    match change vertex.index with
    | .error violation => .error violation
    | .ok index =>
      .ok { arena with
        vertices := arena.vertices.set id.number { vertex with index := index, modified := true } }

def pushRelation (arena : Arena) (relation : Relation) : Arena :=
  { arena with
    relations := arena.relations.push relation
    relationCount := arena.relationCount + 1 }

def attachEdge (arena : Arena) (source : VertexId) (label : EdgeLabel) (target : VertexId) :
    Except Violation (Edge × Arena) :=
  let edge : Edge := ⟨⟨arena.relations.next⟩, label, source, target⟩
  let entry : Entry := ⟨edge.id, label.id, edge.isLoop⟩
  match arena.changeIndex source (·.insertEdge .outgoing entry) with
  | .error violation => .error violation
  | .ok filed =>
    match filed.changeIndex target (·.insertEdge .incoming entry) with
    | .error violation => .error violation
    | .ok filedTwice => .ok (edge, filedTwice.pushRelation (.edge edge))

def attachProperty (arena : Arena) (owner : VertexId) (key : PropertyKey) (value : Value) :
    Except Violation (Property × Arena) :=
  let property : Property := ⟨⟨arena.relations.next⟩, key, owner, value⟩
  match arena.changeIndex owner (·.insertProperty ⟨property.id, key.id, false⟩) with
  | .error violation => .error violation
  | .ok filed => .ok (property, filed.pushRelation (.property property))

/-- Drop the entries of a relation from an index, of which there is at least one. -/
def dropEntries (relation : RelationId) (owner : VertexId) (index : Index) :
    Except Violation Index :=
  let (removed, remaining) := index.remove relation
  if removed = 0 then .error (.unindexedRelation relation owner) else .ok remaining

def unfile (arena : Arena) (relation : RelationId) : List VertexId → Except Violation Arena
  | [] => .ok arena
  | vertex :: rest =>
    match arena.changeIndex vertex (dropEntries relation vertex) with
    | .error violation => .error violation
    | .ok changed => changed.unfile relation rest

/-- Take a relation out of its slot and out of the index of every endpoint, if it is live. -/
def detach (arena : Arena) (id : RelationId) : Except Violation (Option (Relation × Arena)) :=
  match arena.relation? id with
  | none => .ok none
  | some relation =>
    let emptied := { arena with
      relations := arena.relations.erase id.number
      relationCount := arena.relationCount - 1 }
    match emptied.unfile id relation.endpoints with
    | .error violation => .error violation
    | .ok detached => .ok (some (relation, detached))

def detachAll (arena : Arena) : List RelationId → Except Violation Arena
  | [] => .ok arena
  | id :: rest =>
    match arena.detach id with
    | .error violation => .error violation
    | .ok none => arena.detachAll rest
    | .ok (some (_, detached)) => detached.detachAll rest

/-- The ids of a vertex's properties under a key, in the order of insertion. -/
def propertyIds (arena : Arena) (owner : VertexId) (key : SchemaId) : List RelationId :=
  match arena.vertex? owner with
  | none => []
  | some vertex => (vertex.index.propertiesOf (.only [key])).map Entry.relation

def property? (arena : Arena) (id : RelationId) : Option Property :=
  (arena.relation? id).bind Relation.property?

def edge? (arena : Arena) (id : RelationId) : Option Edge :=
  (arena.relation? id).bind Relation.edge?

def unmark (arena : Arena) : Arena :=
  { arena with vertices := arena.vertices.map fun vertex => { vertex with modified := false } }

/-- The arena with as many slots as another, none of them handed out again. -/
def withSlotsOf (arena other : Arena) : Arena :=
  { arena with
    vertices := arena.vertices.resize other.vertices.next
    relations := arena.relations.resize other.relations.next }

end Arena

end PropertyGraph
