import PropertyGraph.Proofs.Arena.Consistent

/-!
# The entries of an arena

In a consistent arena every live relation has exactly one entry in each list
that it belongs to, and every entry belongs to such a relation.
-/

namespace PropertyGraph.Arena

/-- Every live relation has exactly one entry where it belongs, and there is no other entry. -/
structure Indexed (arena : Arena) : Prop where
  source : ∀ edge ∈ arena.liveEdges, ∃ vertex, arena.vertex? edge.source = some vertex ∧
    (vertex.index.outgoing.filter fun entry => entry.relation = edge.id) =
      [⟨edge.id, edge.label.id, edge.isLoop⟩]
  target : ∀ edge ∈ arena.liveEdges, ∃ vertex, arena.vertex? edge.target = some vertex ∧
    (vertex.index.incoming.filter fun entry => entry.relation = edge.id) =
      [⟨edge.id, edge.label.id, edge.isLoop⟩]
  owner : ∀ property ∈ arena.liveProperties, ∃ vertex,
    arena.vertex? property.owner = some vertex ∧
      (vertex.index.properties.filter fun entry => entry.relation = property.id) =
        [⟨property.id, property.key.id, false⟩]
  outgoing : ∀ vertex ∈ arena.vertices.live, ∀ entry ∈ vertex.index.outgoing,
    ∃ edge ∈ arena.liveEdges, edge.source = vertex.id ∧
      entry = ⟨edge.id, edge.label.id, edge.isLoop⟩
  incoming : ∀ vertex ∈ arena.vertices.live, ∀ entry ∈ vertex.index.incoming,
    ∃ edge ∈ arena.liveEdges, edge.target = vertex.id ∧
      entry = ⟨edge.id, edge.label.id, edge.isLoop⟩
  properties : ∀ vertex ∈ arena.vertices.live, ∀ entry ∈ vertex.index.properties,
    ∃ property ∈ arena.liveProperties, property.owner = vertex.id ∧
      entry = ⟨property.id, property.key.id, false⟩

namespace Consistent

variable {arena : Arena}

/-- Of the entries of the live relations of some sort, one is that of a live relation. -/
theorem filter_entries (consistent : arena.Consistent) {relation : Relation}
    (live : relation ∈ arena.relations.live) {keep : Relation → Bool}
    (kept : keep relation = true) :
    (((arena.relations.live.filter keep).map Relation.entry).filter
      fun entry => entry.relation = relation.id) = [relation.entry] := by
  have alone := consistent.relations_numbered.filter_number live
  simp only [RelationId.number_inj] at alone
  have swap : (arena.relations.live.filter keep).filter
        (fun other => other.entry.relation = relation.id) =
      (arena.relations.live.filter fun other => other.id = relation.id).filter keep := by
    rw [List.filter_filter, List.filter_filter]
    apply List.filter_congr
    intro other _
    rw [Relation.entry_relation, Bool.and_comm]
  rw [List.filter_map]
  change ((arena.relations.live.filter keep).filter
    fun other => other.entry.relation = relation.id).map Relation.entry = _
  rw [swap, alone, List.filter_cons_of_pos kept]
  rfl

theorem indexed_entries (consistent : arena.Consistent) : arena.Indexed := by
  have endpoint (relation : Relation) (live : relation ∈ arena.relations.live) (id : VertexId)
      (incident : relation.isIncidentOn id = true) :
      ∃ vertex, arena.vertex? id = some vertex ∧
        vertex.index = .ofRelations id arena.relations.live := by
    obtain ⟨vertex, found⟩ := Option.isSome_iff_exists.1
      (consistent.endpoints_live relation live id ((relation.mem_endpoints_iff id).2 incident))
    exact ⟨vertex, found, consistent.index_eq found⟩
  refine ⟨?_, ?_, ?_, ?_, ?_, ?_⟩
  · intro edge listed
    have live := mem_liveEdges.1 listed
    obtain ⟨vertex, found, indexed⟩ := endpoint _ live edge.source (by simp [Relation.isIncidentOn])
    refine ⟨vertex, found, ?_⟩
    rw [indexed, Index.outgoing_ofRelations]
    exact consistent.filter_entries live (by simp [Relation.startsFrom, Edge.startsFrom])
  · intro edge listed
    have live := mem_liveEdges.1 listed
    obtain ⟨vertex, found, indexed⟩ := endpoint _ live edge.target (by simp [Relation.isIncidentOn])
    refine ⟨vertex, found, ?_⟩
    rw [indexed, Index.incoming_ofRelations]
    exact consistent.filter_entries live (by simp [Relation.endsAt, Edge.endsAt])
  · intro property listed
    have live := mem_liveProperties.1 listed
    obtain ⟨vertex, found, indexed⟩ :=
      endpoint _ live property.owner (by simp [Relation.isIncidentOn])
    refine ⟨vertex, found, ?_⟩
    rw [indexed, Index.properties_ofRelations]
    exact consistent.filter_entries live (by simp [Relation.isOwnedBy])
  · intro vertex vertexLive entry member
    rw [consistent.indexed vertex vertexLive, Index.outgoing_ofRelations] at member
    obtain ⟨relation, filed, rfl⟩ := List.mem_map.1 member
    obtain ⟨live, starts⟩ := List.mem_filter.1 filed
    cases relation with
    | edge e =>
        exact ⟨e, mem_liveEdges.2 live, of_decide_eq_true starts, rfl⟩
    | property p => cases starts
  · intro vertex vertexLive entry member
    rw [consistent.indexed vertex vertexLive, Index.incoming_ofRelations] at member
    obtain ⟨relation, filed, rfl⟩ := List.mem_map.1 member
    obtain ⟨live, ends⟩ := List.mem_filter.1 filed
    cases relation with
    | edge e => exact ⟨e, mem_liveEdges.2 live, of_decide_eq_true ends, rfl⟩
    | property p => cases ends
  · intro vertex vertexLive entry member
    rw [consistent.indexed vertex vertexLive, Index.properties_ofRelations] at member
    obtain ⟨relation, filed, rfl⟩ := List.mem_map.1 member
    obtain ⟨live, owned⟩ := List.mem_filter.1 filed
    cases relation with
    | edge e => cases owned
    | property p =>
        exact ⟨p, mem_liveProperties.2 live, of_decide_eq_true owned, rfl⟩

end Consistent

end PropertyGraph.Arena
