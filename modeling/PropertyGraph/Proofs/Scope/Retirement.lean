import PropertyGraph.Proofs.Scope.Touching

/-!
# Retired ids

A relation that was removed can come back, since a rollback restores it.  What
is neither live nor part of the last commit cannot: a commit keeps only what is
live, a rollback restores only what was committed, and in between every new
vertex or relation gets a number that was not handed out before.  A teardown
retires whatever is not live after it.
-/

namespace PropertyGraph

namespace Arena.Follows

variable {later earlier : Arena} (follows : later.Follows earlier) {number : Nat}
include follows

/-- No vertex appears under a number that was handed out. -/
theorem vertices_none (old : number < earlier.vertices.next)
    (dead : earlier.vertices.get? number = none) : later.vertices.get? number = none := by
  have labels := follows.vertices number old
  rw [dead, Option.map_none, Option.map_eq_none_iff] at labels
  exact labels

/-- No relation appears under a number that was handed out. -/
theorem relations_none (old : number < earlier.relations.next)
    (dead : earlier.relations.get? number = none) : later.relations.get? number = none := by
  cases found : later.relations.get? number with
  | none => rfl
  | some relation =>
      have before := follows.relations number old relation found
      rw [dead] at before
      cases before

end Arena.Follows

/-- The number was handed out, and neither of the tables has anything under it. -/
structure Slots.Retired {α : Type} (current committed : Slots α) (number : Nat) : Prop where
  issued : number < current.next
  dead : current.get? number = none
  uncommitted : committed.get? number = none

namespace Scope

/-- The id was handed out, and its vertex is neither live nor committed. -/
def RetiresVertex (scope : Scope) (id : VertexId) : Prop :=
  scope.arena.vertices.Retired scope.base.vertices id.number

def RetiresRelation (scope : Scope) (id : RelationId) : Prop :=
  scope.arena.relations.Retired scope.base.relations id.number

/-- Every id that the earlier scope retires is retired by the later one. -/
structure KeepsRetired (earlier later : Scope) : Prop where
  vertices : ∀ id, earlier.RetiresVertex id → later.RetiresVertex id
  relations : ∀ id, earlier.RetiresRelation id → later.RetiresRelation id

namespace KeepsRetired

theorem refl (scope : Scope) : scope.KeepsRetired scope := ⟨fun _ => id, fun _ => id⟩

theorem trans {first second third : Scope} (earlier : first.KeepsRetired second)
    (later : second.KeepsRetired third) : first.KeepsRetired third :=
  ⟨fun id retired => later.vertices id (earlier.vertices id retired),
    fun id retired => later.relations id (earlier.relations id retired)⟩

theorem edits {scope : Scope} {catalog : Catalog} {arena : Arena}
    (edits : Arena.Edits catalog scope.arena arena) :
    scope.KeepsRetired { scope with arena := arena } := by
  have follows := Arena.Follows.edits edits
  refine ⟨?_, ?_⟩
  · intro id retired
    exact ⟨Nat.lt_of_lt_of_le retired.issued follows.vertices_next,
      follows.vertices_none retired.issued retired.dead, retired.uncommitted⟩
  · intro id retired
    exact ⟨Nat.lt_of_lt_of_le retired.issued follows.relations_next,
      follows.relations_none retired.issued retired.dead, retired.uncommitted⟩

end KeepsRetired

section

variable {scope : Scope} {catalog : Catalog} {request : Request}

/-- What is not live after a teardown is retired, if its number was handed out. -/
theorem Sound.retires_of_tearsDown (sound : scope.Sound catalog)
    (teardown : request.tearsDown = true) :
    (∀ id : VertexId, id.number < scope.arena.vertices.next →
        (scope.serve catalog request).scope.arena.vertex? id = none →
          (scope.serve catalog request).scope.RetiresVertex id) ∧
      ∀ id : RelationId, id.number < scope.arena.relations.next →
        (scope.serve catalog request).scope.arena.relation? id = none →
          (scope.serve catalog request).scope.RetiresRelation id := by
  cases request with
  | commit =>
      refine ⟨?_, ?_⟩
      · intro id issued dead
        exact ⟨(Slots.next_map _ _).symm ▸ issued, dead, dead⟩
      · intro id issued dead
        exact ⟨issued, dead, dead⟩
  | rollback =>
      have same : (scope.serve catalog .rollback).scope =
          { scope with arena := scope.base.withSlotsOf scope.arena } := sound.rollback_eq
      rw [same]
      refine ⟨?_, ?_⟩
      · intro id issued dead
        exact ⟨(Slots.next_resize _ _).symm ▸ issued, dead,
          (Slots.get?_resize _ sound.follows.vertices_next _).symm.trans dead⟩
      · intro id issued dead
        exact ⟨(Slots.next_resize _ _).symm ▸ issued, dead,
          (Slots.get?_resize _ sound.follows.relations_next _).symm.trans dead⟩
  | addVertex => cases teardown
  | addVertexWithLabel name => cases teardown
  | addEdge source label target => cases teardown
  | addEdgeWithLabel source label target => cases teardown
  | addProperty owner key value => cases teardown
  | addPropertyWithKey owner key value => cases teardown
  | removeRelation id => cases teardown

/-- No request brings a retired id back. -/
theorem Sound.keepsRetired (sound : scope.Sound catalog) (catalogSound : catalog.Sound)
    (request : Request) : scope.KeepsRetired (scope.serve catalog request).scope := by
  rcases (sound.serve_effect catalogSound request).edits_or_teardown with
    ⟨arena, same, edited⟩ | ⟨rfl, -⟩ | ⟨rfl, -⟩
  · rw [same]
    exact .edits edited
  · have teardown : Request.tearsDown .commit = true := rfl
    obtain ⟨vertices, relations⟩ := sound.retires_of_tearsDown teardown
    refine ⟨?_, fun id retired => relations id retired.issued retired.dead⟩
    intro id retired
    refine vertices id retired.issued ?_
    change scope.arena.unmark.vertex? id = none
    rw [Arena.vertex?_unmark, Arena.vertex?, retired.dead, Option.map_none]
  · have teardown : Request.tearsDown .rollback = true := rfl
    obtain ⟨vertices, relations⟩ := sound.retires_of_tearsDown teardown
    have same : (scope.serve catalog .rollback).scope =
        { scope with arena := scope.base.withSlotsOf scope.arena } := sound.rollback_eq
    refine ⟨fun id retired => vertices id retired.issued ?_,
      fun id retired => relations id retired.issued ?_⟩
    · rw [same]
      exact (Slots.get?_resize _ sound.follows.vertices_next _).trans retired.uncommitted
    · rw [same]
      exact (Slots.get?_resize _ sound.follows.relations_next _).trans retired.uncommitted

/-- No vertex is live under the id, and every request that names it meets a missing vertex. -/
structure LacksVertex (scope : Scope) (catalog : Catalog) (id : VertexId) : Prop where
  dead : scope.containsVertex id = false
  refused : ∀ request : Request, id ∈ request.needs →
    ∃ missing, scope.missing? request.needs = some missing ∧
      scope.serve catalog request = scope.refuse catalog (.vertexNotFound missing)

/-- No relation is live under the id, and a request to remove it is refused. -/
structure LacksRelation (scope : Scope) (catalog : Catalog) (id : RelationId) : Prop where
  dead : scope.arena.relation? id = none
  refused : scope.serve catalog (.removeRelation id) =
    scope.refuse catalog (.relationNotFound id)

theorem lacksVertex {id : VertexId} (dead : scope.arena.vertex? id = none) (catalog : Catalog) :
    scope.LacksVertex catalog id := by
  refine ⟨by rw [containsVertex, dead, Option.isSome_none], ?_⟩
  intro request named
  cases missed : scope.missing? request.needs with
  | none =>
      have live := missing?_eq_none_iff.1 missed id named
      rw [dead] at live
      cases live
  | some missing => exact ⟨missing, rfl, serve_missing missed⟩

theorem lacksRelation {id : RelationId} (dead : scope.arena.relation? id = none)
    (catalog : Catalog) : scope.LacksRelation catalog id := by
  refine ⟨dead, ?_⟩
  simp only [Scope.serve, removeRelation, Arena.Consistent.detach_eq_none dead]
  rfl

end

end Scope

end PropertyGraph
