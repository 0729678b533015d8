import PropertyGraph.Catalog.Directory

/-!
# Catalogs

A catalog holds the property keys, edge labels and vertex labels that scopes
share.  Names are unique within a kind, and every catalog has the standard
vertex label.  A snapshot lists a catalog's descriptors; `restore` builds a
catalog from one and keeps the ids.
-/

namespace PropertyGraph

/-- The name of the vertex label that every catalog has. -/
def standardVertexLabel : String := "vertex"

/-- The descriptors shared by the scopes opened over them. -/
structure Catalog where
  propertyKeys : Directory PropertyKey
  edgeLabels : Directory EdgeLabel
  vertexLabels : Directory VertexLabel
  deriving DecidableEq

structure Snapshot where
  propertyKeys : List PropertyKey
  edgeLabels : List EdgeLabel
  vertexLabels : List VertexLabel
  deriving DecidableEq

namespace Catalog

/-- The catalog that holds the standard vertex label only. -/
def fresh : Catalog := ⟨.empty, .empty, ⟨[⟨⟨0⟩, standardVertexLabel⟩]⟩⟩

/-- The property key of a name, created with the policy's type and cardinality if permitted. -/
def propertyKey (catalog : Catalog) (policy : Policy) (name : String) :
    Except GraphError (PropertyKey × Catalog) :=
  (catalog.propertyKeys.intern name policy.autoCreate fun id =>
      ⟨id, name, policy.dataType, policy.cardinality⟩).map
    fun (key, grown) => (key, { catalog with propertyKeys := grown })

def edgeLabel (catalog : Catalog) (policy : Policy) (name : String) :
    Except GraphError (EdgeLabel × Catalog) :=
  (catalog.edgeLabels.intern name policy.autoCreate fun id => ⟨id, name⟩).map
    fun (label, grown) => (label, { catalog with edgeLabels := grown })

def vertexLabel (catalog : Catalog) (policy : Policy) (name : String) :
    Except GraphError (VertexLabel × Catalog) :=
  (catalog.vertexLabels.intern name policy.autoCreate fun id => ⟨id, name⟩).map
    fun (label, grown) => (label, { catalog with vertexLabels := grown })

def definePropertyKey (catalog : Catalog) (name : String) (dataType : DataType)
    (cardinality : Cardinality) : Except GraphError (PropertyKey × Catalog) :=
  (catalog.propertyKeys.define name fun id => ⟨id, name, dataType, cardinality⟩).map
    fun (key, grown) => (key, { catalog with propertyKeys := grown })

def defineEdgeLabel (catalog : Catalog) (name : String) :
    Except GraphError (EdgeLabel × Catalog) :=
  (catalog.edgeLabels.define name fun id => ⟨id, name⟩).map
    fun (label, grown) => (label, { catalog with edgeLabels := grown })

def defineVertexLabel (catalog : Catalog) (name : String) :
    Except GraphError (VertexLabel × Catalog) :=
  (catalog.vertexLabels.define name fun id => ⟨id, name⟩).map
    fun (label, grown) => (label, { catalog with vertexLabels := grown })

def resolveOrCreate (catalog : Catalog) (kind : Kind) (policy : Policy) (name : String) :
    Except GraphError (Descriptor × Catalog) :=
  match kind with
  | .propertyKey => (catalog.propertyKey policy name).map fun (key, grown) =>
      (.propertyKey key, grown)
  | .edgeLabel => (catalog.edgeLabel policy name).map fun (label, grown) =>
      (.edgeLabel label, grown)
  | .vertexLabel => (catalog.vertexLabel policy name).map fun (label, grown) =>
      (.vertexLabel label, grown)

def lookup? (catalog : Catalog) (kind : Kind) (name : String) : Option Descriptor :=
  match kind with
  | .propertyKey => (catalog.propertyKeys.find? name).map .propertyKey
  | .edgeLabel => (catalog.edgeLabels.find? name).map .edgeLabel
  | .vertexLabel => (catalog.vertexLabels.find? name).map .vertexLabel

def byId? (catalog : Catalog) (kind : Kind) (id : SchemaId) : Option Descriptor :=
  match kind with
  | .propertyKey => (catalog.propertyKeys.byId? id).map .propertyKey
  | .edgeLabel => (catalog.edgeLabels.byId? id).map .edgeLabel
  | .vertexLabel => (catalog.vertexLabels.byId? id).map .vertexLabel

def contains (catalog : Catalog) (kind : Kind) (name : String) : Bool :=
  match kind with
  | .propertyKey => catalog.propertyKeys.contains name
  | .edgeLabel => catalog.edgeLabels.contains name
  | .vertexLabel => catalog.vertexLabels.contains name

def names (catalog : Catalog) (kind : Kind) : List String :=
  match kind with
  | .propertyKey => catalog.propertyKeys.names
  | .edgeLabel => catalog.edgeLabels.names
  | .vertexLabel => catalog.vertexLabels.names

def length (catalog : Catalog) (kind : Kind) : Nat :=
  match kind with
  | .propertyKey => catalog.propertyKeys.length
  | .edgeLabel => catalog.edgeLabels.length
  | .vertexLabel => catalog.vertexLabels.length

/-- The descriptors of every kind in ascending order of their ids. -/
def snapshot (catalog : Catalog) : Snapshot :=
  ⟨catalog.propertyKeys.entries, catalog.edgeLabels.entries, catalog.vertexLabels.entries⟩

def withStandardLabel (catalog : Catalog) : Except GraphError Catalog :=
  if catalog.vertexLabels.contains standardVertexLabel then .ok catalog
  else
    (catalog.vertexLabels.create fun id => ⟨id, standardVertexLabel⟩).map
      fun (_, grown) => { catalog with vertexLabels := grown }

/-- The catalog of a snapshot's descriptors, with the standard vertex label added if missing. -/
def restore (snapshot : Snapshot) : Except GraphError Catalog :=
  match Directory.empty.insertAll snapshot.propertyKeys with
  | .error error => .error error
  | .ok propertyKeys =>
    match Directory.empty.insertAll snapshot.edgeLabels with
    | .error error => .error error
    | .ok edgeLabels =>
      match Directory.empty.insertAll snapshot.vertexLabels with
      | .error error => .error error
      | .ok vertexLabels => withStandardLabel ⟨propertyKeys, edgeLabels, vertexLabels⟩

end Catalog

end PropertyGraph
