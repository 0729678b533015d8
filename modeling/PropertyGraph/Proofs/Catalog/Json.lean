import PropertyGraph.Catalog.Json
import PropertyGraph.Proofs.Json.Record

/-!
# Descriptors and snapshots read back

Ids, data types and cardinalities are faithfully written, hence the three kinds
of descriptor, their lists and whole snapshots.
-/

namespace PropertyGraph

open Json

theorem SchemaId.faithful : Faithful SchemaId.toJson SchemaId.ofJson? where
  wellFormed id := .ofInt id.number
  read id := congrArg (Option.map SchemaId.mk) (word?_ofInt id.word)

theorem DataType.faithful :
    Faithful (fun dataType => .ofText (DataType.name dataType)) DataType.ofJson? where
  wellFormed _ := .string _
  read := ofName?_name

theorem Cardinality.faithful :
    Faithful (fun cardinality => .ofText (Cardinality.name cardinality)) Cardinality.ofJson? where
  wellFormed _ := .string _
  read := ofName?_name

theorem PropertyKey.faithful : Faithful PropertyKey.toJson PropertyKey.ofJson? where
  wellFormed key := by
    refine .ofMembers ?_
    simp only [List.forall_mem_cons]
    exact ⟨SchemaId.faithful.wellFormed _, Faithful.text.wellFormed _,
      DataType.faithful.wellFormed _, Cardinality.faithful.wellFormed _,
      fun _ known => nomatch known⟩
  read key := by
    have once : ["id", "name", "data_type", "cardinality"].Nodup := by decide
    have given : key.toJson.fields? ["id", "name", "data_type", "cardinality"] =
        some [some key.id.toJson, some (.ofText key.name), some (.ofText key.dataType.name),
          some (.ofText key.cardinality.name)] :=
      fields?_ofMembers once
    rw [ofJson?, given]
    simp [SchemaId.faithful.read, Faithful.text.read, DataType.faithful.read,
      Cardinality.faithful.read]

section

variable (id : SchemaId) (name : String)

/-- The record of an id and a name has both fields, whichever kind of label it is of. -/
theorem fields?_label :
    (ofMembers [("id", id.toJson), ("name", ofText name)]).fields? ["id", "name"] =
      some [some id.toJson, some (ofText name)] := by
  have once : ["id", "name"].Nodup := by decide
  exact fields?_ofMembers once

theorem wellFormed_label :
    (ofMembers [("id", id.toJson), ("name", ofText name)]).WellFormed := by
  refine .ofMembers ?_
  simp only [List.forall_mem_cons]
  exact ⟨SchemaId.faithful.wellFormed _, Faithful.text.wellFormed _, fun _ known => nomatch known⟩

end

theorem EdgeLabel.faithful : Faithful EdgeLabel.toJson EdgeLabel.ofJson? where
  wellFormed label := wellFormed_label label.id label.name
  read label := by
    rw [ofJson?, toJson, fields?_label]
    simp [SchemaId.faithful.read, Faithful.text.read]

theorem VertexLabel.faithful : Faithful VertexLabel.toJson VertexLabel.ofJson? where
  wellFormed label := wellFormed_label label.id label.name
  read label := by
    rw [ofJson?, toJson, fields?_label]
    simp [SchemaId.faithful.read, Faithful.text.read]

/-- A snapshot of any lists is read back, also one that no catalog has. -/
theorem Snapshot.faithful : Faithful Snapshot.toJson Snapshot.ofJson? where
  wellFormed snapshot := by
    refine .ofMembers ?_
    simp only [List.forall_mem_cons]
    exact ⟨PropertyKey.faithful.list.wellFormed _, EdgeLabel.faithful.list.wellFormed _,
      VertexLabel.faithful.list.wellFormed _, fun _ known => nomatch known⟩
  read snapshot := by
    have once : ["property_keys", "edge_labels", "vertex_labels"].Nodup := by decide
    have given : snapshot.toJson.fields? ["property_keys", "edge_labels", "vertex_labels"] =
        some [some (.array (snapshot.propertyKeys.map PropertyKey.toJson)),
          some (.array (snapshot.edgeLabels.map EdgeLabel.toJson)),
          some (.array (snapshot.vertexLabels.map VertexLabel.toJson))] :=
      fields?_ofMembers once
    rw [ofJson?, given]
    simp [PropertyKey.faithful.list.read, EdgeLabel.faithful.list.read,
      VertexLabel.faithful.list.read]

end PropertyGraph
