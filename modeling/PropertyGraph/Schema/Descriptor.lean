import PropertyGraph.Identifier
import PropertyGraph.Schema.DataType

/-!
# Schema descriptors

Property keys, edge labels and vertex labels.  Each kind has its own names and
its own ids; `Catalogued` is what the three have in common, and a `Descriptor`
is one of any kind.
-/

namespace PropertyGraph

inductive Kind where
  | propertyKey
  | edgeLabel
  | vertexLabel
  deriving DecidableEq

namespace Kind

def all : List Kind := [propertyKey, edgeLabel, vertexLabel]

def text : Kind → String
  | propertyKey => "property key"
  | edgeLabel => "edge label"
  | vertexLabel => "vertex label"

end Kind

/-- What a property is called, which values it takes and how many of them. -/
structure PropertyKey where
  id : SchemaId
  name : String
  dataType : DataType
  cardinality : Cardinality
  deriving DecidableEq

structure EdgeLabel where
  id : SchemaId
  name : String
  deriving DecidableEq

structure VertexLabel where
  id : SchemaId
  name : String
  deriving DecidableEq

/-- A type of descriptors of one kind, each with an id and a name. -/
class Catalogued (δ : Type) where
  kind : Kind
  id : δ → SchemaId
  name : δ → String

instance : Catalogued PropertyKey := ⟨.propertyKey, PropertyKey.id, PropertyKey.name⟩
instance : Catalogued EdgeLabel := ⟨.edgeLabel, EdgeLabel.id, EdgeLabel.name⟩
instance : Catalogued VertexLabel := ⟨.vertexLabel, VertexLabel.id, VertexLabel.name⟩

inductive Descriptor where
  | propertyKey (key : PropertyKey)
  | edgeLabel (label : EdgeLabel)
  | vertexLabel (label : VertexLabel)
  deriving DecidableEq

namespace Descriptor

def kind : Descriptor → Kind
  | propertyKey _ => .propertyKey
  | edgeLabel _ => .edgeLabel
  | vertexLabel _ => .vertexLabel

def id : Descriptor → SchemaId
  | propertyKey key => key.id
  | edgeLabel label => label.id
  | vertexLabel label => label.id

def name : Descriptor → String
  | propertyKey key => key.name
  | edgeLabel label => label.name
  | vertexLabel label => label.name

end Descriptor

structure Policy where
  autoCreate : Bool
  dataType : DataType
  cardinality : Cardinality
  deriving DecidableEq

namespace Policy

/-- Unknown names are created; keys take any value and hold one. -/
def standard : Policy := ⟨true, default, default⟩

/-- Unknown names are refused. -/
def strict : Policy := { standard with autoCreate := false }

end Policy

end PropertyGraph
