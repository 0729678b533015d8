import Mathlib.Algebra.BigOperators.Group.Finset.Basic
import Mathlib.Algebra.GroupWithZero.Nat
import PropertyGraph.Proofs.Query.Scan
import PropertyGraph.Scope.Reading

/-!
# Degrees

A vertex has an outgoing entry for every live edge that starts there, an
incoming one for every live edge that ends there, and one for each of its
properties.  Every edge starts at one live vertex and ends at one, so the
degrees of all vertices add up to the number of live relations of each sort; a
loop has its two ends at one vertex and is counted twice there.
-/

namespace PropertyGraph

/-- If each item has one of the places, then counting place by place counts all items. -/
theorem sum_length_filter {α β : Type} [DecidableEq β] (place : α → β) {places : List β}
    (nodup : places.Nodup) {items : List α} (placed : ∀ item ∈ items, place item ∈ places) :
    (places.map fun here => (items.filter fun item => place item = here).length).sum =
      items.length := by
  have counts (here : β) : (items.filter fun item => place item = here).length =
      (items.map place).count here := by
    rw [List.count, List.countP_map, List.countP_eq_length_filter]
    rfl
  have among : ∀ here ∈ (items.map place : Multiset β), here ∈ places.toFinset := by
    simpa using placed
  calc (places.map fun here => (items.filter fun item => place item = here).length).sum
      = (places.map fun here => (items.map place).count here).sum := by simp only [counts]
    _ = ∑ here ∈ places.toFinset, (items.map place).count here :=
      (List.sum_toFinset _ nodup).symm
    _ = (items.map place).length := by simpa using Multiset.sum_count_eq_card among
    _ = items.length := List.length_map place

namespace Arena.Consistent

variable {arena : Arena} (consistent : arena.Consistent)
include consistent

/-- The ids of the live vertices ascend. -/
theorem vertexIds_ascending :
    arena.vertexIds.Pairwise fun first second => first.number < second.number :=
  List.pairwise_map.2 consistent.vertices_numbered.live_ascending

theorem vertexIds_nodup : arena.vertexIds.Nodup :=
  consistent.vertexIds_ascending.imp fun {_ _} below same => by
    rw [same] at below
    exact Nat.lt_irrefl _ below

theorem mem_vertexIds {id : VertexId} (live : (arena.vertex? id).isSome) :
    id ∈ arena.vertexIds := by
  obtain ⟨vertex, found⟩ := Option.isSome_iff_exists.1 live
  rw [← id_of_vertex? consistent.vertices_numbered found]
  exact List.mem_map_of_mem (mem_live_of_vertex? found)

/-- A vertex that an edge or property belongs to is live. -/
theorem endpoint_mem_vertexIds {relation : Relation} (live : relation ∈ arena.relations.live)
    {id : VertexId} (incident : relation.isIncidentOn id = true) : id ∈ arena.vertexIds :=
  consistent.mem_vertexIds
    (consistent.endpoints_live relation live id ((relation.mem_endpoints_iff id).2 incident))

/-! ## The entries of one vertex -/

section

variable {vertex : Vertex} (live : vertex ∈ arena.vertices.live)
include live

theorem length_outgoing : vertex.index.outgoing.length =
    (arena.liveEdges.filter fun edge => edge.source = vertex.id).length := by
  rw [consistent.indexed vertex live, Index.outgoing_ofRelations, List.length_map]
  exact (congrArg List.length (Relation.filter_edges (·.startsFrom vertex.id) _)).trans
    (List.length_map _)

theorem length_incoming : vertex.index.incoming.length =
    (arena.liveEdges.filter fun edge => edge.target = vertex.id).length := by
  rw [consistent.indexed vertex live, Index.incoming_ofRelations, List.length_map]
  exact (congrArg List.length (Relation.filter_edges (·.endsAt vertex.id) _)).trans
    (List.length_map _)

theorem length_properties : vertex.index.properties.length =
    (arena.liveProperties.filter fun property => property.owner = vertex.id).length := by
  rw [consistent.indexed vertex live, Index.properties_ofRelations, List.length_map]
  exact (congrArg List.length (Relation.filter_properties (·.owner = vertex.id) _)).trans
    (List.length_map _)

end

/-! ## The entries of all vertices -/

theorem sum_sources :
    (arena.vertexIds.map fun id =>
      (arena.liveEdges.filter fun edge => edge.source = id).length).sum =
        arena.liveEdges.length := by
  apply sum_length_filter _ consistent.vertexIds_nodup
  intro edge listed
  exact consistent.endpoint_mem_vertexIds (mem_liveEdges.1 listed) (by simp [Relation.isIncidentOn])

theorem sum_targets :
    (arena.vertexIds.map fun id =>
      (arena.liveEdges.filter fun edge => edge.target = id).length).sum =
        arena.liveEdges.length := by
  apply sum_length_filter _ consistent.vertexIds_nodup
  intro edge listed
  exact consistent.endpoint_mem_vertexIds (mem_liveEdges.1 listed) (by simp [Relation.isIncidentOn])

theorem sum_owners :
    (arena.vertexIds.map fun id =>
      (arena.liveProperties.filter fun property => property.owner = id).length).sum =
        arena.liveProperties.length := by
  apply sum_length_filter _ consistent.vertexIds_nodup
  intro property listed
  exact consistent.endpoint_mem_vertexIds (mem_liveProperties.1 listed)
    (by simp [Relation.isIncidentOn])

theorem sum_edgeCount :
    (arena.vertices.live.map Vertex.edgeCount).sum = 2 * arena.liveEdges.length := by
  have ends : arena.vertices.live.map Vertex.edgeCount =
      arena.vertexIds.map fun id =>
        (arena.liveEdges.filter fun edge => edge.source = id).length +
          (arena.liveEdges.filter fun edge => edge.target = id).length := by
    rw [vertexIds, List.map_map]
    apply List.map_congr_left
    intro vertex live
    exact congrArg₂ (· + ·) (consistent.length_outgoing live) (consistent.length_incoming live)
  rw [ends, List.sum_map_add, consistent.sum_sources, consistent.sum_targets, Nat.two_mul]

theorem sum_propertyCount :
    (arena.vertices.live.map Vertex.propertyCount).sum = arena.liveProperties.length := by
  have owned : arena.vertices.live.map Vertex.propertyCount =
      arena.vertexIds.map fun id =>
        (arena.liveProperties.filter fun property => property.owner = id).length := by
    rw [vertexIds, List.map_map]
    apply List.map_congr_left
    intro vertex live
    exact consistent.length_properties live
  rw [owned, consistent.sum_owners]

/-- The relations that are counted are the live edges and the live properties. -/
theorem relationCount_eq :
    arena.relationCount = arena.liveEdges.length + arena.liveProperties.length := by
  have sorts (relations : List Relation) : relations.length =
      (relations.filterMap Relation.edge?).length +
        (relations.filterMap Relation.property?).length := by
    induction relations with
    | nil => rfl
    | cons relation rest ih =>
        cases relation with
        | edge e =>
            simp only [List.filterMap_cons, Relation.edge?_edge, Relation.property?_edge,
              List.length_cons]
            omega
        | property p =>
            simp only [List.filterMap_cons, Relation.edge?_property, Relation.property?_property,
              List.length_cons]
            omega
  rw [consistent.relations_counted]
  exact sorts arena.relations.live

/-- Detaching a live relation succeeds and takes exactly one off the count. -/
theorem detach_counts {id : RelationId} {relation : Relation}
    (found : arena.relation? id = some relation) :
    ∃ detached, arena.detach id = .ok (some (relation, detached)) ∧
      detached.relationCount + 1 = arena.relationCount := by
  have live := mem_live_of_relation? found
  refine ⟨_, consistent.detach_eq_release found, ?_⟩
  rw [(consistent.release live).relations_counted, consistent.relations_counted]
  exact Slots.length_live_erase (consistent.mem_live_iff.1 live)

end Arena.Consistent

namespace Query

variable {scope : Scope} {catalog : Catalog} (sound : scope.arena.Sound catalog)
  (catalogSound : catalog.Sound) (id : VertexId)
include sound catalogSound

theorem edgeCount_outgoing :
    ((around id).toward .outgoing).edgeCount scope catalog =
      (scope.arena.liveEdges.filter fun edge => edge.source = id).length := by
  rw [(scans sound catalogSound ((around id).toward .outgoing)).edgeCount]
  change (scope.arena.liveEdges.filter fun edge => edge.source = id && true).length + 0 = _
  simp only [Bool.and_true, Nat.add_zero]

theorem edgeCount_incoming :
    ((around id).toward .incoming).edgeCount scope catalog =
      (scope.arena.liveEdges.filter fun edge => edge.target = id).length := by
  rw [(scans sound catalogSound ((around id).toward .incoming)).edgeCount]
  change 0 + (scope.arena.liveEdges.filter fun edge => edge.target = id && true).length = _
  simp only [Bool.and_true, Nat.zero_add]

end Query

end PropertyGraph
