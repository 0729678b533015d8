import PropertyGraph.Query

/-!
# Reading a vertex

The usual questions about one vertex, each of them a query.  They are asked of
a live vertex; a handle is the promise that its vertex is live.
-/

namespace PropertyGraph

namespace Scope

def vertex? (scope : Scope) (id : VertexId) : Option Vertex := scope.arena.vertex? id

/-- The edges of a direction that carry any of the named labels; no labels mean all edges. -/
def edgesNamed (scope : Scope) (catalog : Catalog) (vertex : VertexId) (direction : Direction)
    (labels : List String) : Except Violation (List Edge) :=
  (((Query.around vertex).toward direction).withLabels (labels.map .name)).edges scope catalog

def edgesLabelled (scope : Scope) (catalog : Catalog) (vertex : VertexId)
    (direction : Direction) (labels : List EdgeLabel) : Except Violation (List Edge) :=
  (((Query.around vertex).toward direction).withLabels
    (labels.map fun label => .descriptor label.id label.name)).edges scope catalog

/-- The vertices across the edges of a direction that carry any of the named labels. -/
def neighbours (scope : Scope) (catalog : Catalog) (vertex : VertexId) (direction : Direction)
    (labels : List String) : Except Violation (List VertexId) :=
  (((Query.around vertex).toward direction).withLabels (labels.map .name)).vertices scope catalog

def edgesOf (scope : Scope) (catalog : Catalog) (vertex : VertexId) :
    Except Violation (List Edge) :=
  (Query.around vertex).edges scope catalog

def propertiesOf (scope : Scope) (catalog : Catalog) (vertex : VertexId) :
    Except Violation (List Property) :=
  (Query.around vertex).properties scope catalog

def relationsOf (scope : Scope) (catalog : Catalog) (vertex : VertexId) :
    Except Violation (List Relation) :=
  (Query.around vertex).relations scope catalog

def propertiesNamed (scope : Scope) (catalog : Catalog) (vertex : VertexId) (key : String) :
    Except Violation (List Property) :=
  ((Query.around vertex).withKeys [.name key]).properties scope catalog

def propertiesKeyed (scope : Scope) (catalog : Catalog) (vertex : VertexId) (key : PropertyKey) :
    Except Violation (List Property) :=
  ((Query.around vertex).withKeys [.descriptor key.id key.name]).properties scope catalog

/-- The names of the keys that a vertex has properties under, in the order of their first use. -/
def propertyNames (scope : Scope) (catalog : Catalog) (vertex : VertexId) :
    Except Violation (List String) :=
  (scope.propertiesOf catalog vertex).map fun properties =>
    (properties.map (·.key.name)).eraseDups

/-- The first value under a named key. -/
def value? (scope : Scope) (catalog : Catalog) (vertex : VertexId) (key : String) :
    Except Violation (Option Value) :=
  (scope.propertiesNamed catalog vertex key).map fun properties =>
    properties.head?.map Property.value

def vertexCount (scope : Scope) : Nat := scope.arena.vertexCount

def relationCount (scope : Scope) : Nat := scope.arena.relationCount

def modified (scope : Scope) : List VertexId := scope.arena.modifiedVertices.map Vertex.id

/-- The vertex behind a handle. -/
def view (scope : Scope) (handle : VertexId) : Except Violation Vertex :=
  match scope.vertex? handle with
  | some vertex => .ok vertex
  | none => .error (.missingVertex handle)

end Scope

end PropertyGraph
