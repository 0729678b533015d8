import PropertyGraph.Proofs.Query.Scan
import PropertyGraph.Proofs.Scope.Soundness
import PropertyGraph.Scope.Reading

/-!
# What a rollback restores

Two arenas hold the same graph if they agree in everything but the marks of
modification and the empty slots at the end.  Then every read of the one
answers what it answers of the other, over whichever sound catalogs.  Rolling
back gives the graph of the last commit and no mark; only the slots, and with
them the next numbers, are those of the discarded arena.
-/

namespace PropertyGraph

namespace Arena

/-- The arenas agree in everything but marks and empty slots at the end. -/
structure SameGraph (first second : Arena) : Prop where
  vertex? : ∀ id, first.unmark.vertex? id = second.unmark.vertex? id
  vertices : first.unmark.vertices.live = second.unmark.vertices.live
  relation? : ∀ id, first.relation? id = second.relation? id
  relations : first.relations.live = second.relations.live
  vertexCount : first.vertexCount = second.vertexCount
  relationCount : first.relationCount = second.relationCount

theorem SameGraph.refl (arena : Arena) : arena.SameGraph arena :=
  ⟨fun _ => rfl, rfl, fun _ => rfl, rfl, rfl, rfl⟩

theorem SameGraph.unmark (arena : Arena) : arena.unmark.SameGraph arena :=
  ⟨fun id => by rw [unmark_unmark], by rw [unmark_unmark], fun _ => rfl, rfl, rfl, rfl⟩

/-- Filling up with empty slots changes nothing of the graph. -/
theorem SameGraph.withSlotsOf {later earlier : Arena} (follows : later.Follows earlier) :
    (earlier.withSlotsOf later).SameGraph earlier where
  vertex? id := by
    have filled : earlier.unmark.vertices.next ≤ later.vertices.next := by
      simpa [Arena.unmark] using follows.vertices_next
    rw [unmark_withSlotsOf]
    exact Slots.get?_resize earlier.unmark.vertices filled id.number
  vertices := by
    have filled : earlier.unmark.vertices.next ≤ later.vertices.next := by
      simpa [Arena.unmark] using follows.vertices_next
    rw [unmark_withSlotsOf]
    exact Slots.live_resize earlier.unmark.vertices filled
  relation? id := Slots.get?_resize earlier.relations follows.relations_next id.number
  relations := Slots.live_resize earlier.relations follows.relations_next
  vertexCount := rfl
  relationCount := rfl

@[simp] theorem modifiedVertices_unmark (arena : Arena) : arena.unmark.modifiedVertices = [] := by
  simp [modifiedVertices, Arena.unmark]

@[simp] theorem withSlotsOf_withSlotsOf (arena other : Arena) :
    arena.withSlotsOf (arena.withSlotsOf other) = arena.withSlotsOf other := by
  simp [Arena.withSlotsOf]

end Arena

namespace Scope

/-- Every read of the first scope answers what it answers of the second, marks apart. -/
structure ReadsAs (first : Scope) (firstCatalog : Catalog) (second : Scope)
    (secondCatalog : Catalog) : Prop where
  containsVertex : ∀ id, first.containsVertex id = second.containsVertex id
  relation? : ∀ id, first.arena.relation? id = second.arena.relation? id
  vertexIds : first.arena.vertexIds = second.arena.vertexIds
  vertexCount : first.vertexCount = second.vertexCount
  relationCount : first.relationCount = second.relationCount
  label : ∀ id, (first.vertex? id).map Vertex.label = (second.vertex? id).map Vertex.label
  index : ∀ id, (first.vertex? id).map Vertex.index = (second.vertex? id).map Vertex.index
  edges : ∀ query : Query, query.edges first firstCatalog = query.edges second secondCatalog
  properties : ∀ query : Query,
    query.properties first firstCatalog = query.properties second secondCatalog
  relations : ∀ query : Query,
    query.relations first firstCatalog = query.relations second secondCatalog
  vertices : ∀ query : Query,
    query.vertices first firstCatalog = query.vertices second secondCatalog
  count : ∀ query : Query, query.count first firstCatalog = query.count second secondCatalog
  edgeCount : ∀ query : Query,
    query.edgeCount first firstCatalog = query.edgeCount second secondCatalog
  propertyCount : ∀ query : Query,
    query.propertyCount first firstCatalog = query.propertyCount second secondCatalog

/-- Sound scopes that hold the same graph read the same, over any sound catalogs. -/
theorem readsAs {first second : Scope} {firstCatalog secondCatalog : Catalog}
    (same : first.arena.SameGraph second.arena) (firstSound : first.arena.Sound firstCatalog)
    (firstCatalogSound : firstCatalog.Sound) (secondSound : second.arena.Sound secondCatalog)
    (secondCatalogSound : secondCatalog.Sound) :
    first.ReadsAs firstCatalog second secondCatalog := by
  have unmarked (id : VertexId) := same.vertex? id
  simp only [Arena.vertex?_unmark] at unmarked
  have edges : first.arena.liveEdges = second.arena.liveEdges :=
    congrArg (List.filterMap Relation.edge?) same.relations
  have properties : first.arena.liveProperties = second.arena.liveProperties :=
    congrArg (List.filterMap Relation.property?) same.relations
  have outgoing (query : Query) : query.outgoing first.arena = query.outgoing second.arena := by
    simp only [Query.outgoing, Query.starting, edges]
  have incoming (query : Query) : query.incoming first.arena = query.incoming second.arena := by
    simp only [Query.incoming, Query.ending, edges]
  have owned (query : Query) : query.owned first.arena = query.owned second.arena := by
    simp only [Query.owned, properties]
  have degree (query : Query) : query.degree first.arena = query.degree second.arena := by
    simp only [Query.degree, Query.starting, Query.ending, edges]
  have firstScans (query : Query) := Query.scans firstSound firstCatalogSound query
  have secondScans (query : Query) := Query.scans secondSound secondCatalogSound query
  refine
    { containsVertex := ?_
      relation? := same.relation?
      vertexIds := ?_
      vertexCount := same.vertexCount
      relationCount := same.relationCount
      label := ?_
      index := ?_
      edges := ?_
      properties := ?_
      relations := ?_
      vertices := ?_
      count := ?_
      edgeCount := ?_
      propertyCount := ?_ }
  · intro id
    have present := congrArg Option.isSome (unmarked id)
    rwa [Option.isSome_map, Option.isSome_map] at present
  · have ids := congrArg (List.map Vertex.id) same.vertices
    simpa [Arena.unmark, Arena.vertexIds, Function.comp_def] using ids
  · intro id
    have labels := congrArg (Option.map Vertex.label) (unmarked id)
    rw [Option.map_map, Option.map_map] at labels
    exact labels
  · intro id
    have indexes := congrArg (Option.map Vertex.index) (unmarked id)
    rw [Option.map_map, Option.map_map] at indexes
    exact indexes
  · intro query
    rw [(firstScans query).edges, (secondScans query).edges, outgoing, incoming]
  · intro query
    rw [(firstScans query).properties, (secondScans query).properties, owned]
  · intro query
    rw [(firstScans query).relations, (secondScans query).relations, Query.surroundings,
      Query.surroundings, outgoing, incoming, owned]
  · intro query
    rw [(firstScans query).vertices, (secondScans query).vertices, outgoing, incoming]
  · intro query
    rw [(firstScans query).count, (secondScans query).count, Query.surroundings,
      Query.surroundings, outgoing, incoming, owned]
  · intro query
    rw [(firstScans query).edgeCount, (secondScans query).edgeCount, degree]
  · intro query
    rw [(firstScans query).propertyCount, (secondScans query).propertyCount, owned]

/-- What rolling back makes of a scope that was last committed, or opened, as `kept`. -/
structure RollsBackTo (scope : Scope) (catalog : Catalog) (kept : Scope)
    (keptCatalog : Catalog) : Prop where
  reads : scope.rollback.2.ReadsAs catalog kept keptCatalog
  unmarked : ∀ id vertex, scope.rollback.2.vertex? id = some vertex → vertex.modified = false
  lasting : scope.rollback.2 = { kept with arena := kept.arena.withSlotsOf scope.arena }
  vertices_next : kept.arena.vertices.next ≤ scope.arena.vertices.next ∧
    scope.rollback.2.arena.vertices.next = scope.arena.vertices.next
  relations_next : kept.arena.relations.next ≤ scope.arena.relations.next ∧
    scope.rollback.2.arena.relations.next = scope.arena.relations.next
  answer : scope.rollback.1 = (scope.arena.vertices.live.filter Vertex.modified).length
  again : scope.rollback.2.rollback = (0, scope.rollback.2)

/-- The later scope differs from the earlier one in its arena only. -/
def SharesCommit (earlier later : Scope) : Prop := later = { earlier with arena := later.arena }

namespace SharesCommit

theorem refl (scope : Scope) : scope.SharesCommit scope := rfl

theorem trans {first second third : Scope} (earlier : first.SharesCommit second)
    (later : second.SharesCommit third) : first.SharesCommit third := by
  unfold SharesCommit at *
  rw [later, earlier]

end SharesCommit

namespace Sound

variable {scope kept : Scope} {catalog keptCatalog : Catalog}

/-- Only committing changes what the last commit is. -/
theorem sharesCommit (sound : scope.Sound catalog) (catalogSound : catalog.Sound)
    {request : Request} (uncommitted : request ≠ .commit) :
    scope.SharesCommit (scope.serve catalog request).scope := by
  rcases (sound.serve_effect catalogSound request).edits_or_teardown with
    ⟨arena, same, -⟩ | ⟨committed, -⟩ | ⟨-, same⟩
  · rw [same]
    rfl
  · exact absurd committed uncommitted
  · rw [same]
    rfl

/-- A scope that shares its last commit with a settled one rolls back to this one. -/
theorem rollsBackTo (sound : scope.Sound catalog) (catalogSound : catalog.Sound)
    (keptSound : kept.Sound keptCatalog) (keptCatalogSound : keptCatalog.Sound)
    (settled : kept.base = kept.arena) (shares : kept.SharesCommit scope) :
    scope.RollsBackTo catalog kept keptCatalog := by
  have base : scope.base = kept.arena := by
    rw [← settled, shares]
    rfl
  have restored := sound.rollback_eq
  have follows := sound.follows
  rw [base] at restored follows
  have lasting : scope.rollback.2 = { kept with arena := kept.arena.withSlotsOf scope.arena } := by
    rw [restored, shares]
  refine ⟨?_, fun _ _ => Arena.modified_unmark, lasting, ⟨follows.vertices_next, ?_⟩,
    ⟨follows.relations_next, ?_⟩, rfl, ?_⟩
  · have same : scope.rollback.2.arena.SameGraph kept.arena := by
      rw [restored]
      exact .withSlotsOf follows
    exact readsAs same sound.rollback.arena catalogSound keptSound.arena keptCatalogSound
  · rw [restored]
    exact Slots.next_resize _ _
  · rw [restored]
    exact Slots.next_resize _ _
  · apply Prod.ext
    · exact congrArg List.length
        (Arena.modifiedVertices_unmark (scope.base.withSlotsOf scope.arena))
    · rw [sound.rollback.rollback_eq]
      have sameBase : scope.rollback.2.base = kept.arena := base
      rw [sameBase, restored, Arena.withSlotsOf_withSlotsOf]

end Sound

end Scope

end PropertyGraph
