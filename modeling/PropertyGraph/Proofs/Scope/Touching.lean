import PropertyGraph.Proofs.Arena.Marks
import PropertyGraph.Proofs.Scope.Response

/-!
# Requests that touch a vertex

A request touches a vertex if it succeeds in attaching a relation to it or in
detaching one from it.  A vertex is marked after a request if the request
touched it, or if it was marked before and the request was no teardown.
-/

namespace PropertyGraph

theorem Relation.isIncidentOn_edge {edge : Edge} {id : VertexId} :
    (Relation.edge edge).isIncidentOn id = true ↔ id ∈ [edge.source, edge.target] := by
  simp [Relation.isIncidentOn, @eq_comm _ id]

/--
The request, answered like this, attached a relation to the vertex or detached
one from it: an edge from or to it, a property of it that was not there before,
or a removed relation that belonged to it.
-/
inductive Arena.Touches (arena : Arena) (id : VertexId) :
    Scope.Request → Except Failure Scope.Answer → Prop where
  | edge {request : Scope.Request} {edge : Edge} (needed : id ∈ request.needs) :
      Touches arena id request (.ok (.edge edge))
  | property {request : Scope.Request} {property : Property} (needed : id ∈ request.needs)
      (created : arena.relation? property.id = none) :
      Touches arena id request (.ok (.property property))
  | removal {removed : RelationId} {relation : Relation}
      (incident : relation.isIncidentOn id = true) :
      Touches arena id (.removeRelation removed) (.ok (.relation relation))

namespace Arena

variable {arena : Arena} {id : VertexId} {request : Scope.Request}

theorem not_touches_error {failure : Failure} : ¬ arena.Touches id request (.error failure) := by
  intro touches
  cases touches

theorem not_touches_vertex {added : VertexId} :
    ¬ arena.Touches id request (.ok (.vertex added)) := by
  intro touches
  cases touches

theorem not_touches_modified {count : Nat} :
    ¬ arena.Touches id request (.ok (.modified count)) := by
  intro touches
  cases touches

theorem touches_edge_iff {edge : Edge} :
    arena.Touches id request (.ok (.edge edge)) ↔ id ∈ request.needs := by
  constructor
  · intro touches
    cases touches with
    | edge needed => exact needed
  · exact .edge

theorem touches_property_iff {property : Property} :
    arena.Touches id request (.ok (.property property)) ↔
      id ∈ request.needs ∧ arena.relation? property.id = none := by
  constructor
  · intro touches
    cases touches with
    | property needed created => exact ⟨needed, created⟩
  · rintro ⟨needed, created⟩
    exact .property needed created

theorem touches_removal_iff {removed : RelationId} {relation : Relation} :
    arena.Touches id (.removeRelation removed) (.ok (.relation relation)) ↔
      relation.isIncidentOn id = true := by
  constructor
  · intro touches
    cases touches with
    | removal incident => exact incident
  · exact .removal

/-- Nothing is live under the next number. -/
theorem relation?_next (arena : Arena) : arena.relation? ⟨arena.relations.next⟩ = none :=
  arena.relations.get?_next

end Arena

namespace Scope

/-- Whether the request ends the current part of a scope's changes. -/
def Request.tearsDown : Request → Bool
  | commit => true
  | rollback => true
  | _ => false

variable {scope : Scope} {catalog : Catalog} {request : Request} {outcome : Outcome Answer}

/-- Nothing is marked after a teardown. -/
theorem isMarked_tearsDown (scope : Scope) (catalog : Catalog)
    (teardown : request.tearsDown = true) (id : VertexId) :
    (scope.serve catalog request).scope.arena.isMarked id = false ∧
      ¬ scope.arena.Touches id request (scope.serve catalog request).result := by
  cases request with
  | commit => exact ⟨Arena.isMarked_unmark, Arena.not_touches_modified⟩
  | rollback => exact ⟨Arena.isMarked_unmark, Arena.not_touches_modified⟩
  | _ => cases teardown

/-- Any other request marks what it touches, and it keeps the marks that there are. -/
theorem Response.isMarked_iff (response : Response scope catalog request outcome)
    (sound : scope.Sound catalog) (ongoing : request.tearsDown = false) (id : VertexId) :
    outcome.scope.arena.isMarked id = true ↔
      scope.arena.isMarked id = true ∨ scope.arena.Touches id request outcome.result := by
  have consistent := sound.arena.toConsistent
  cases response with
  | refuse refusal => simp only [Arena.not_touches_error, or_false]
  | addVertex adds => simp only [Arena.isMarked_addVertex, Arena.not_touches_vertex, or_false]
  | @connect _ source target label grown live connects =>
      rw [Arena.connect, Arena.touches_edge_iff, connects.needs, consistent.isMarked_attach,
        Bool.or_eq_true, Relation.isIncidentOn_edge]
      intro id endpoint
      rw [Relation.mem_endpoints_iff, Relation.isIncidentOn_edge] at endpoint
      exact missing?_eq_none_iff.1 live id endpoint
  | @store _ owner key value grown live stores accepted =>
      have ownerLive := missing?_eq_none_iff.1 live owner List.mem_cons_self
      rcases scope.arena.storeNamed_cases owner key (key.dataType.coerce value) with
        ⟨property, held, found⟩ | ⟨ids, held, replaced⟩
      · have propertyLive := List.mem_of_mem_filter held
        rw [found, Arena.touches_property_iff, consistent.mem_liveProperties_iff.1 propertyLive]
        simp
      · have marked := consistent.isMarked_replace
          ⟨⟨scope.arena.relations.next⟩, key, owner, key.dataType.coerce value⟩ ownerLive held id
        rw [replaced, Arena.touches_property_iff, stores.needs, List.mem_singleton]
        simp only [marked, Arena.relation?_next, and_true, Bool.or_eq_true, decide_eq_true_eq,
          @eq_comm _ id]
  | release found =>
      rw [Arena.touches_removal_iff, ← Bool.or_eq_true,
        consistent.isMarked_release (Arena.Consistent.mem_live_of_relation? found)]
  | commit => cases ongoing
  | rollback => cases ongoing

/-- A request marks what it touches, and unless it is a teardown it keeps the marks. -/
theorem Sound.isMarked_serve (sound : scope.Sound catalog) (catalogSound : catalog.Sound)
    (request : Request) (id : VertexId) :
    (scope.serve catalog request).scope.arena.isMarked id = true ↔
      (request.tearsDown = false ∧ scope.arena.isMarked id = true) ∨
        scope.arena.Touches id request (scope.serve catalog request).result := by
  cases teardown : request.tearsDown with
  | true =>
      obtain ⟨unmarked, untouched⟩ := scope.isMarked_tearsDown catalog teardown id
      simp [unmarked, untouched]
  | false =>
      have response := sound.serve_response catalogSound request
      simpa using response.isMarked_iff sound teardown id

/-- Until the next teardown, what is not marked in the end was kept. -/
theorem Sound.keepsUnmarked (sound : scope.Sound catalog) (catalogSound : catalog.Sound)
    (ongoing : request.tearsDown = false) :
    scope.arena.KeepsUnmarked (scope.serve catalog request).scope.arena := by
  have effect := sound.serve_effect catalogSound request
  rcases effect.edits_or_teardown with ⟨arena, same, edits⟩ | ⟨rfl, -⟩ | ⟨rfl, -⟩
  · rw [same]
    exact edits.keepsUnmarked (sound.arena.grow (effect.leads catalogSound).grows)
  · cases ongoing
  · cases ongoing

end Scope

end PropertyGraph
