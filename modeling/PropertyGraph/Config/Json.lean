import PropertyGraph.Catalog.Json
import PropertyGraph.Config

/-!
# Configurations as JSON

A configuration is a record in which every field may be missing; a missing
field has its standard value.
-/

namespace PropertyGraph.Config

def fieldNames : List String :=
  ["auto_schema", "default_vertex_label", "default_data_type", "default_cardinality"]

def toJson (config : Config) : Json :=
  .ofMembers [("auto_schema", .boolean config.autoSchema),
    ("default_vertex_label", .ofText config.vertexLabel),
    ("default_data_type", .ofText config.dataType.name),
    ("default_cardinality", .ofText config.cardinality.name)]

/-- A setting that is given must be readable, and one that is missing has its standard value. -/
def setting? {α : Type} (read? : Json → Option α) (standard : α) : Option Json → Option α
  | none => some standard
  | some json => read? json

def ofJson? (json : Json) : Option Config :=
  match json.fields? fieldNames with
  | some [autoSchema, vertexLabel, dataType, cardinality] => do
    some ⟨← setting? Json.boolean? standard.autoSchema autoSchema,
      ← setting? Json.text? standard.vertexLabel vertexLabel,
      ← setting? DataType.ofJson? standard.dataType dataType,
      ← setting? Cardinality.ofJson? standard.cardinality cardinality⟩
  | _ => none

end PropertyGraph.Config
