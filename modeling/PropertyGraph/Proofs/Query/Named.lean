import PropertyGraph.Proofs.Arena.Unnumbered
import PropertyGraph.Proofs.Query.Scan

/-!
# Queries by name

A query whose references are names answers what a scan of the live relations
does, and a name is compared with names only.  So what it answers is decided by
the arena without its schema ids, up to the schema ids in the answer.
-/

namespace PropertyGraph

namespace TypeRef

def IsName : TypeRef → Prop
  | name _ => True
  | descriptor _ _ => False

/-- Names mean a descriptor whatever its id is. -/
theorem allDenote_of_isName {groups : List (List TypeRef)}
    (named : ∀ group ∈ groups, ∀ reference ∈ group, reference.IsName) (first second : SchemaId)
    (wanted : String) : allDenote groups first wanted = allDenote groups second wanted := by
  have denotes (reference : TypeRef) (isName : reference.IsName) :
      reference.denotes first wanted = reference.denotes second wanted := by
    cases reference with
    | name other => rfl
    | descriptor id other => exact isName.elim
  unfold allDenote
  rw [Bool.eq_iff_iff, List.all_eq_true, List.all_eq_true]
  apply forall₂_congr
  intro group among
  rw [List.any_eq_true, List.any_eq_true]
  apply exists_congr
  intro reference
  apply and_congr_right
  intro member
  rw [denotes reference (named group among reference member)]

end TypeRef

namespace Query

structure ByName (query : Query) : Prop where
  labels : ∀ group ∈ query.labels, ∀ reference ∈ group, reference.IsName
  keys : ∀ group ∈ query.keys, ∀ reference ∈ group, reference.IsName

/-- What all terminals of a query answer. -/
structure Reading where
  edges : Except Violation (List Edge)
  properties : Except Violation (List Property)
  relations : Except Violation (List Relation)
  vertices : Except Violation (List VertexId)
  count : Except Violation Nat
  edgeCount : Nat
  propertyCount : Except Violation Nat

def Reading.unnumbered (reading : Reading) : Reading :=
  { reading with
    edges := reading.edges.map (List.map Edge.unnumbered)
    properties := reading.properties.map (List.map Property.unnumbered)
    relations := reading.relations.map (List.map Relation.unnumbered) }

/-- Ask for everything that a query can answer. -/
def read (query : Query) (scope : Scope) (catalog : Catalog) : Reading :=
  ⟨query.edges scope catalog, query.properties scope catalog, query.relations scope catalog,
    query.vertices scope catalog, query.count scope catalog, query.edgeCount scope catalog,
    query.propertyCount scope catalog⟩

/-- What a scan of the live relations answers. -/
def scan (query : Query) (arena : Arena) : Reading where
  edges := .ok (query.cut (query.outgoing arena ++ query.incoming arena))
  properties := .ok (query.cut (query.owned arena))
  relations := .ok (query.cut (query.surroundings arena))
  vertices := .ok (query.cut ((query.outgoing arena).map Edge.target ++
    (query.incoming arena).map Edge.source))
  count := .ok (query.cut (query.surroundings arena)).length
  edgeCount := query.limit.elim (query.degree arena) (min (query.degree arena))
  propertyCount := .ok (query.cut (query.owned arena)).length

theorem Scans.read_eq {query : Query} {scope : Scope} {catalog : Catalog}
    (scans : query.Scans scope catalog) : query.read scope catalog = query.scan scope.arena := by
  simp only [read, scan, scans.edges, scans.properties, scans.relations, scans.vertices,
    scans.count, scans.edgeCount, scans.propertyCount]

namespace ByName

variable {query : Query} (byName : query.ByName) (arena : Arena)
include byName

theorem meansLabel (label : EdgeLabel) :
    query.meansLabel label.unnumbered = query.meansLabel label :=
  TypeRef.allDenote_of_isName byName.labels _ _ _

theorem meansKey (key : PropertyKey) : query.meansKey key.unnumbered = query.meansKey key :=
  TypeRef.allDenote_of_isName byName.keys _ _ _

theorem starting :
    query.starting arena.unnumbered = (query.starting arena).map Edge.unnumbered := by
  rw [Query.starting, Query.starting, Arena.liveEdges_unnumbered]
  apply filter_map_of
  intro edge
  exact congrArg (edge.source = query.vertex && ·) (byName.meansLabel edge.label)

theorem ending : query.ending arena.unnumbered = (query.ending arena).map Edge.unnumbered := by
  rw [Query.ending, Query.ending, Arena.liveEdges_unnumbered]
  apply filter_map_of
  intro edge
  exact congrArg (edge.target = query.vertex && ·) (byName.meansLabel edge.label)

theorem outgoing :
    query.outgoing arena.unnumbered = (query.outgoing arena).map Edge.unnumbered := by
  rw [Query.outgoing, Query.outgoing, byName.starting]
  split
  next => rfl
  next => rfl

theorem incoming :
    query.incoming arena.unnumbered = (query.incoming arena).map Edge.unnumbered := by
  rw [Query.incoming, Query.incoming, byName.ending]
  split
  next => exact filter_map_of _ (fun _ => rfl) _
  next => rfl

theorem owned : query.owned arena.unnumbered = (query.owned arena).map Property.unnumbered := by
  rw [Query.owned, Query.owned, Arena.liveProperties_unnumbered]
  split
  next =>
    apply filter_map_of
    intro property
    exact congrArg (property.owner = query.vertex && ·) (byName.meansKey property.key)
  next => rfl

theorem degree : query.degree arena.unnumbered = query.degree arena := by
  simp only [Query.degree, byName.starting, byName.ending, List.length_map]

theorem surroundings :
    query.surroundings arena.unnumbered =
      (query.surroundings arena).map Relation.unnumbered := by
  have edges (listed : List Edge) : (listed.map Edge.unnumbered).map Relation.edge =
      (listed.map Relation.edge).map Relation.unnumbered := by
    rw [List.map_map, List.map_map]
    rfl
  have properties (listed : List Property) :
      (listed.map Property.unnumbered).map Relation.property =
        (listed.map Relation.property).map Relation.unnumbered := by
    rw [List.map_map, List.map_map]
    rfl
  simp only [Query.surroundings, byName.outgoing, byName.incoming, byName.owned,
    List.map_append, edges, properties]
  split
  next =>
    split
    next => rfl
    next => rfl
  next =>
    split
    next => simp only [List.map_append, List.map_nil]
    next => simp only [List.map_append]

/-- Without its schema ids, a scan by names is the scan of the arena without schema ids. -/
theorem scan_unnumbered :
    (query.scan arena).unnumbered = query.scan arena.unnumbered := by
  have targets : ((query.outgoing arena).map Edge.unnumbered).map Edge.target =
      (query.outgoing arena).map Edge.target := by
    rw [List.map_map]
    rfl
  have sources : ((query.incoming arena).map Edge.unnumbered).map Edge.source =
      (query.incoming arena).map Edge.source := by
    rw [List.map_map]
    rfl
  simp only [scan, Reading.unnumbered, byName.outgoing, byName.incoming, byName.owned,
    byName.surroundings, byName.degree, targets, sources, ← List.map_append, cut_map,
    List.length_map, Except.map]

end ByName

/-- What a query by name answers up to schema ids, the arena without schema ids decides. -/
theorem read_unnumbered {query : Query} (byName : query.ByName) {scope : Scope}
    {catalog : Catalog} (sound : scope.arena.Sound catalog) (catalogSound : catalog.Sound) :
    (query.read scope catalog).unnumbered = query.scan scope.arena.unnumbered := by
  rw [(scans sound catalogSound query).read_eq, byName.scan_unnumbered]

end Query

end PropertyGraph
