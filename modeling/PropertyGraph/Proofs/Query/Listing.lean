import PropertyGraph.Proofs.Scope.Storing
import PropertyGraph.Scope.Reading

/-!
# Listings and degrees

The degree of a query counts edge ends and its listing shows edges, so under
both directions they differ by the loops: a loop starts and ends at the vertex,
and is left out of the incoming part of the listing.  For the same reason no
edge is listed twice.
-/

namespace PropertyGraph

/-- A filter by the labels that are in use counts what no filter counts. -/
theorem Index.countEdges_only {index : Index} {ids : List SchemaId}
    (outgoing : ∀ entry ∈ index.outgoing, entry.typeId ∈ ids)
    (incoming : ∀ entry ∈ index.incoming, entry.typeId ∈ ids) (direction : Direction) :
    index.countEdges direction (.only ids) = index.countEdges direction .any := by
  have passes (entries : List Entry) (used : ∀ entry ∈ entries, entry.typeId ∈ ids) :
      (entries.filter fun entry => (TypeFilter.only ids).admits entry.typeId) =
        entries.filter fun entry => TypeFilter.any.admits entry.typeId := by
    apply List.filter_congr
    intro entry member
    simpa [TypeFilter.admits] using used entry member
  rw [countEdges_eq, countEdges_eq, passes _ outgoing, passes _ incoming]

namespace Query

def unlimited (query : Query) : Query := { query with limit := none }

theorem cut_sublist (query : Query) {α : Type} (answers : List α) :
    (query.cut answers).Sublist answers := by
  unfold cut
  split
  next => exact List.Sublist.refl answers
  next => exact List.take_sublist _ answers

section

variable (query : Query) (arena : Arena)

/-- The edges that the query lists if it has no limit: outgoing ones, then incoming ones. -/
def listing : List Edge := query.outgoing arena ++ query.incoming arena

/-- The loops among the edges that start at the vertex are those that end there. -/
theorem countP_isLoop_starting :
    (query.starting arena).countP Edge.isLoop = (query.ending arena).countP Edge.isLoop := by
  rw [starting, ending, List.countP_filter, List.countP_filter]
  apply List.countP_congr
  intro edge _
  simp only [Bool.and_eq_true, Edge.isLoop, decide_eq_true_eq]
  constructor
  · rintro ⟨loop, starts, means⟩
    exact ⟨loop, loop ▸ starts, means⟩
  · rintro ⟨loop, ends, means⟩
    exact ⟨loop, loop.trans ends, means⟩

/-- The degree is the length of the listing, with every loop counted twice under both directions. -/
theorem degree_eq :
    query.degree arena = (query.listing arena).length +
      if query.direction = .both then (query.listing arena).countP Edge.isLoop else 0 := by
  cases direction : query.direction with
  | outgoing => simp [degree, listing, outgoing, incoming, direction, Direction.admits]
  | incoming => simp [degree, listing, outgoing, incoming, direction, Direction.admits]
  | both =>
      have unlooped : query.incoming arena =
          (query.ending arena).filter fun edge => !edge.isLoop := by
        simp [incoming, direction, Direction.admits]
      have loopless : (query.incoming arena).countP Edge.isLoop = 0 := by
        rw [unlooped, List.countP_eq_zero]
        intro edge member
        simpa using (List.mem_filter.1 member).2
      have parts : (query.ending arena).length =
          (query.ending arena).countP Edge.isLoop + (query.incoming arena).length := by
        rw [unlooped, ← List.countP_eq_length_filter]
        simpa using List.length_eq_countP_add_countP Edge.isLoop (l := query.ending arena)
      have outgoing : query.outgoing arena = query.starting arena := by
        simp [Query.outgoing, direction, Direction.admits]
      have loops := query.countP_isLoop_starting arena
      rw [degree, listing, outgoing, List.length_append, List.countP_append, loopless, direction]
      simp only [Direction.admits, if_true]
      omega

/-- Under both directions the degree is that of the two directions together. -/
theorem degree_both (direction : query.direction = .both) :
    query.degree arena =
      (query.toward .outgoing).degree arena + (query.toward .incoming).degree arena := by
  have sides : query.degree arena =
      (query.starting arena).length + (query.ending arena).length := by
    simp [degree, direction, Direction.admits]
  have starts : (query.toward .outgoing).degree arena = (query.starting arena).length := rfl
  have ends : (query.toward .incoming).degree arena = (query.ending arena).length :=
    Nat.zero_add _
  rw [sides, starts, ends]

end

/-- An edge that is listed as outgoing is not listed as incoming too. -/
theorem not_mem_incoming {query : Query} {arena : Arena} {edge : Edge}
    (listed : edge ∈ query.outgoing arena) : edge ∉ query.incoming arena := by
  intro again
  have starts := (mem_outgoing listed).2
  have ends := (mem_incoming again).2
  cases direction : query.direction with
  | outgoing => simp [incoming, direction, Direction.admits] at again
  | incoming => simp [outgoing, direction, Direction.admits] at listed
  | both => simp [incoming, direction, Direction.admits, Edge.isLoop, starts, ends] at again

/-- No edge is listed twice. -/
theorem listing_nodup {arena : Arena} (consistent : arena.Consistent) (query : Query) :
    ((query.listing arena).map Edge.id).Nodup := by
  have ids : (arena.liveEdges.map Edge.id).Nodup := by
    rw [List.Nodup, List.pairwise_map]
    apply consistent.liveEdges_ascending.imp
    intro first second below same
    rw [same] at below
    exact Nat.lt_irrefl _ below
  have outgoing : (query.outgoing arena).Sublist arena.liveEdges := by
    unfold Query.outgoing
    split
    next => exact List.filter_sublist
    next => exact List.nil_sublist _
  have incoming : (query.incoming arena).Sublist arena.liveEdges := by
    unfold Query.incoming
    split
    next => exact List.filter_sublist.trans List.filter_sublist
    next => exact List.nil_sublist _
  rw [listing, List.map_append, List.nodup_append]
  refine ⟨ids.sublist (outgoing.map _), ids.sublist (incoming.map _), ?_⟩
  intro id first _ second same
  obtain ⟨edge, listed, rfl⟩ := List.mem_map.1 first
  obtain ⟨other, again, rfl⟩ := List.mem_map.1 second
  have one : other = edge :=
    List.inj_on_of_nodup_map ids (incoming.subset again) (outgoing.subset listed) same.symm
  rw [one] at again
  exact not_mem_incoming listed again

end Query

/-- The count of edges agrees with the listing of edges. -/
structure Query.CountsListing (query : Query) (scope : Scope) (catalog : Catalog) : Prop where
  /-- Without a limit the two differ by the loops, and only under both directions. -/
  unlimited : ∃ edges, query.unlimited.edges scope catalog = .ok edges ∧
    query.unlimited.edgeCount scope catalog =
      edges.length + if query.direction = .both then edges.countP Edge.isLoop else 0
  sides : query.direction = .both → query.unlimited.edgeCount scope catalog =
    (query.unlimited.toward .outgoing).edgeCount scope catalog +
      (query.unlimited.toward .incoming).edgeCount scope catalog
  limited : ∀ limit, (query.atMost limit).edgeCount scope catalog =
    min limit (query.unlimited.edgeCount scope catalog)
  once : ∃ edges, query.edges scope catalog = .ok edges ∧ (edges.map Edge.id).Nodup
  unconstrained : query.labels = [] → query.direction = .both →
    ∀ vertex, scope.vertex? query.vertex = some vertex →
      query.unlimited.edgeCount scope catalog = vertex.edgeCount
  /-- The count without a filter is the count by any list of the labels in use. -/
  filtered : ∀ ids, (∀ edge ∈ scope.arena.liveEdges, edge.label.id ∈ ids) →
    ∀ direction, (query.index scope).countEdges direction (.only ids) =
      (query.index scope).countEdges direction .any

section

variable {scope : Scope} {catalog : Catalog} (sound : scope.arena.Sound catalog)
  (catalogSound : catalog.Sound)
include sound catalogSound

/-- On a sound arena over a sound catalog every count agrees with the listing. -/
theorem Query.countsListing (query : Query) : query.CountsListing scope catalog := by
  have scansUnlimited := query.unlimited.scans sound catalogSound
  refine ⟨⟨query.listing scope.arena, scansUnlimited.edges, ?_⟩, ?_, ?_, ?_, ?_, ?_⟩
  · rw [scansUnlimited.edgeCount]
    exact query.degree_eq scope.arena
  · intro both
    rw [scansUnlimited.edgeCount,
      ((query.unlimited.toward .outgoing).scans sound catalogSound).edgeCount,
      ((query.unlimited.toward .incoming).scans sound catalogSound).edgeCount]
    exact query.unlimited.degree_both scope.arena both
  · intro limit
    rw [scansUnlimited.edgeCount, ((query.atMost limit).scans sound catalogSound).edgeCount]
    exact Nat.min_comm _ _
  · refine ⟨_, (query.scans sound catalogSound).edges, ?_⟩
    exact (listing_nodup sound.toConsistent query).sublist ((query.cut_sublist _).map Edge.id)
  · intro unlabelled both vertex found
    have filter : query.unlimited.labelFilter catalog = .any := by
      rw [labelFilter, Query.unlimited, unlabelled]
      rfl
    have index : query.unlimited.index scope = vertex.index := by
      rw [Query.index]
      exact congrArg (fun found => (Option.map Vertex.index found).getD .empty) found
    have direction : query.unlimited.direction = .both := both
    simp only [edgeCount, filter, index, direction]
    rfl
  · intro ids used direction
    have among (entry : Entry) (keep : Relation → Bool)
        (edges : ∀ relation, keep relation = true → relation.isEdge = true)
        (member : entry ∈ (scope.arena.relations.live.filter keep).map Relation.entry) :
        entry.typeId ∈ ids := by
      obtain ⟨relation, filed, rfl⟩ := List.mem_map.1 member
      obtain ⟨live, kept⟩ := List.mem_filter.1 filed
      cases relation with
      | edge e => exact used e (Arena.mem_liveEdges.2 live)
      | property p => cases edges _ kept
    rw [query.index_eq sound.toConsistent]
    apply Index.countEdges_only
    · intro entry member
      apply among entry (·.startsFrom query.vertex) _ member
      intro relation starts
      cases relation with
      | edge e => rfl
      | property p => cases starts
    · intro entry member
      apply among entry (·.endsAt query.vertex) _ member
      intro relation ends
      cases relation with
      | edge e => rfl
      | property p => cases ends

/-- The properties listed under a name are those that the vertex holds under it. -/
theorem Scope.propertiesNamed_eq (owner : VertexId) (name : String) :
    scope.propertiesNamed catalog owner name = .ok (scope.arena.held owner name) := by
  have listed := (((Query.around owner).withKeys [.name name]).scans sound catalogSound).properties
  have owned : ((Query.around owner).withKeys [.name name]).owned scope.arena =
      scope.arena.held owner name := by
    change scope.arena.liveProperties.filter _ = scope.arena.liveProperties.filter _
    apply List.filter_congr
    intro property _
    simp [Query.around, Query.withKeys, Query.meansKey, TypeRef.allDenote, TypeRef.denotes,
      eq_comm]
  rw [owned] at listed
  exact listed

end

end PropertyGraph
