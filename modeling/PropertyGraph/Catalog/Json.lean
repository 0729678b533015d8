import PropertyGraph.Catalog.Basic
import PropertyGraph.Json.Printer
import PropertyGraph.Json.Record

/-!
# Snapshots as JSON

A snapshot is a record of three lists of descriptors, each of them a record.
Every field is required.
-/

namespace PropertyGraph

def SchemaId.toJson (id : SchemaId) : Json := .ofInt id.number

def SchemaId.ofJson? (json : Json) : Option SchemaId := json.word?.map .mk

def DataType.ofJson? (json : Json) : Option DataType := json.name?.bind ofName?

def Cardinality.ofJson? (json : Json) : Option Cardinality := json.name?.bind ofName?

namespace PropertyKey

def toJson (key : PropertyKey) : Json :=
  .ofMembers [("id", key.id.toJson), ("name", .ofText key.name),
    ("data_type", .ofText key.dataType.name), ("cardinality", .ofText key.cardinality.name)]

def ofJson? (json : Json) : Option PropertyKey :=
  match json.fields? ["id", "name", "data_type", "cardinality"] with
  | some [some id, some name, some dataType, some cardinality] => do
    some ⟨← SchemaId.ofJson? id, ← name.text?, ← DataType.ofJson? dataType,
      ← Cardinality.ofJson? cardinality⟩
  | _ => none

end PropertyKey

namespace EdgeLabel

def toJson (label : EdgeLabel) : Json :=
  .ofMembers [("id", label.id.toJson), ("name", .ofText label.name)]

def ofJson? (json : Json) : Option EdgeLabel :=
  match json.fields? ["id", "name"] with
  | some [some id, some name] => do some ⟨← SchemaId.ofJson? id, ← name.text?⟩
  | _ => none

end EdgeLabel

namespace VertexLabel

def toJson (label : VertexLabel) : Json :=
  .ofMembers [("id", label.id.toJson), ("name", .ofText label.name)]

def ofJson? (json : Json) : Option VertexLabel :=
  match json.fields? ["id", "name"] with
  | some [some id, some name] => do some ⟨← SchemaId.ofJson? id, ← name.text?⟩
  | _ => none

end VertexLabel

namespace Snapshot

def toJson (snapshot : Snapshot) : Json :=
  .ofMembers [("property_keys", .array (snapshot.propertyKeys.map PropertyKey.toJson)),
    ("edge_labels", .array (snapshot.edgeLabels.map EdgeLabel.toJson)),
    ("vertex_labels", .array (snapshot.vertexLabels.map VertexLabel.toJson))]

def ofJson? (json : Json) : Option Snapshot :=
  match json.fields? ["property_keys", "edge_labels", "vertex_labels"] with
  | some [some keys, some edges, some vertices] => do
    some ⟨← keys.listOf? PropertyKey.ofJson?, ← edges.listOf? EdgeLabel.ofJson?,
      ← vertices.listOf? VertexLabel.ofJson?⟩
  | _ => none

end Snapshot

end PropertyGraph
