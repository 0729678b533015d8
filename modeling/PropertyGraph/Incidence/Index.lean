import PropertyGraph.Direction
import PropertyGraph.Error
import PropertyGraph.Incidence.Filter

/-!
# Incidence indexes

The index of a vertex has one entry for each incidence of a relation on it,
in three lists: outgoing edges, incoming edges and properties.  A loop has an
entry in both edge lists, so it counts twice and is listed once.
-/

namespace PropertyGraph

/-- One incidence of a relation on the vertex that owns the index. -/
structure Entry where
  relation : RelationId
  typeId : SchemaId
  isLoop : Bool
  deriving DecidableEq

/-- The incidences of one vertex, each list in the order of insertion. -/
structure Index where
  outgoing : List Entry
  incoming : List Entry
  properties : List Entry
  deriving DecidableEq

namespace Index

def empty : Index := ⟨[], [], []⟩

/-- File an edge entry under a side; `both` is no side. -/
def insertEdge (index : Index) (side : Direction) (entry : Entry) : Except Violation Index :=
  match side with
  | .outgoing => .ok { index with outgoing := index.outgoing ++ [entry] }
  | .incoming => .ok { index with incoming := index.incoming ++ [entry] }
  | .both => .error (.edgeWithoutSide entry.relation)

/-- File a property entry, which is never a loop. -/
def insertProperty (index : Index) (entry : Entry) : Except Violation Index :=
  if entry.isLoop then .error (.loopProperty entry.relation)
  else .ok { index with properties := index.properties ++ [entry] }

def size (index : Index) : Nat :=
  index.outgoing.length + index.incoming.length + index.properties.length

def without (index : Index) (relation : RelationId) : Index :=
  let keep (entries : List Entry) := entries.filter fun entry => entry.relation ≠ relation
  ⟨keep index.outgoing, keep index.incoming, keep index.properties⟩

/-- Drop every entry of a relation, with the number of entries dropped. -/
def remove (index : Index) (relation : RelationId) : Nat × Index :=
  let remaining := index.without relation
  (index.size - remaining.size, remaining)

def contains (index : Index) (relation : RelationId) : Bool :=
  (index.outgoing ++ index.incoming ++ index.properties).any fun entry =>
    entry.relation = relation

/-- The number of edge entries; a loop counts once on each side. -/
def edgeCount (index : Index) : Nat := index.outgoing.length + index.incoming.length

def edgeCountIn (index : Index) : Direction → Nat
  | .outgoing => index.outgoing.length
  | .incoming => index.incoming.length
  | .both => index.edgeCount

def propertyCount (index : Index) : Nat := index.properties.length

def hasEdges (index : Index) : Bool := !index.outgoing.isEmpty || !index.incoming.isEmpty

def isEmpty (index : Index) : Bool := !index.hasEdges && index.properties.isEmpty

/-- The edge entries of a direction with their sides; under `both` a loop is listed once. -/
def sides (index : Index) (direction : Direction) : List (Direction × Entry) :=
  let outgoing := if direction.admits .outgoing then index.outgoing else []
  let incoming :=
    if direction.admits .incoming then
      index.incoming.filter fun entry => direction ≠ .both || !entry.isLoop
    else []
  outgoing.map (Prod.mk .outgoing) ++ incoming.map (Prod.mk .incoming)

def edges (index : Index) (direction : Direction) (types : TypeFilter) :
    List (Direction × Entry) :=
  (index.sides direction).filter fun (_, entry) => types.admits entry.typeId

/-- The number of edge entries of a direction that pass the filter; a loop counts on each side. -/
def countEdges (index : Index) (direction : Direction) (types : TypeFilter) : Nat :=
  if types = .any then index.edgeCountIn direction
  else
    let count (entries : List Entry) := entries.countP fun entry => types.admits entry.typeId
    (if direction.admits .outgoing then count index.outgoing else 0) +
      (if direction.admits .incoming then count index.incoming else 0)

def propertiesOf (index : Index) (keys : TypeFilter) : List Entry :=
  index.properties.filter fun entry => keys.admits entry.typeId

end Index

end PropertyGraph
