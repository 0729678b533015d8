import PropertyGraph.Proofs.Scope.Succession

/-!
# Events

An event is a request that was served, with the scope before it.  What it added
has the next number, and what it answered with is known before it or after it.
-/

namespace PropertyGraph

def Scope.Answer.relation? : Scope.Answer → Option Relation
  | .vertex _ => none
  | .edge named => some (.edge named)
  | .property named => some (.property named)
  | .relation named => some named
  | .modified _ => none

/-- A request that was served: the scope before it, and what it led to. -/
structure Event where
  before : Scope
  outcome : Outcome Scope.Answer

namespace Event

def newVertex? (event : Event) : Option VertexId :=
  match event.outcome.result with
  | .ok (.vertex id) => some id
  | _ => none

/-- The edge or property that the event added: a property that was live before is not new. -/
def newRelation? (event : Event) : Option RelationId :=
  match event.outcome.result with
  | .ok (.edge edge) => some edge.id
  | .ok (.property property) =>
    if (event.before.arena.relation? property.id).isSome then none else some property.id
  | _ => none

def answered? (event : Event) : Option Relation :=
  event.outcome.result.toOption.bind Scope.Answer.relation?

/-- The event is the effect of a request on a sound scope. -/
def Served (event : Event) : Prop :=
  ∃ catalog request, event.before.Sound catalog ∧
    Scope.Effect event.before catalog request event.outcome

namespace Served

variable {event : Event}

/-- A new vertex has the next number, which is not zero. -/
theorem newVertex? (served : event.Served) {id : VertexId} (new : event.newVertex? = some id) :
    id.number ≠ 0 ∧ event.before.arena.vertices.next ≤ id.number ∧
      id.number < event.outcome.scope.arena.vertices.next := by
  obtain ⟨before, outcome⟩ := event
  obtain ⟨catalog, request, sound, effect⟩ := served
  have begun := sound.arena.vertices_begun.next_pos
  dsimp only at effect begun ⊢
  cases effect with
  | addVertex leads label known =>
      cases new
      refine ⟨Nat.ne_of_gt begun, Nat.le_refl _, ?_⟩
      simp [Arena.addVertex]
  | refuse => cases new
  | addEdge => cases new
  | addProperty => cases new
  | findProperty => cases new
  | removeRelation => cases new
  | commit => cases new
  | rollback => cases new

/-- A new relation has the next number, which is not zero. -/
theorem newRelation? (served : event.Served) {id : RelationId}
    (new : event.newRelation? = some id) :
    id.number ≠ 0 ∧ event.before.arena.relations.next ≤ id.number ∧
      id.number < event.outcome.scope.arena.relations.next := by
  obtain ⟨before, outcome⟩ := event
  obtain ⟨catalog, request, sound, effect⟩ := served
  have begun := sound.arena.relations_begun.next_pos
  dsimp only at effect begun ⊢
  cases effect with
  | addEdge leads edge known numbered live =>
      cases new
      rw [numbered]
      refine ⟨Nat.ne_of_gt begun, Nat.le_refl _, ?_⟩
      simp [Arena.attach, Arena.pushRelation]
  | addProperty leads property known numbered live releases =>
      simp only [Event.newRelation?] at new
      split at new
      next => cases new
      next =>
        cases new
        rw [numbered]
        refine ⟨Nat.ne_of_gt begun, Nat.le_refl _, ?_⟩
        simp [Arena.attach, Arena.pushRelation, releases.relations_next]
  | findProperty leads property live set =>
      simp [Event.newRelation?, sound.arena.mem_liveProperties_iff.1 live] at new
  | refuse => cases new
  | addVertex => cases new
  | removeRelation => cases new
  | commit => cases new
  | rollback => cases new

/-- An answered relation is known before the event or after it. -/
theorem answered?_known (served : event.Served) {relation : Relation}
    (answered : event.answered? = some relation) :
    event.before.Knows relation ∨ event.outcome.scope.Knows relation := by
  obtain ⟨before, outcome⟩ := event
  obtain ⟨catalog, request, sound, effect⟩ := served
  dsimp only at effect ⊢
  cases effect with
  | addEdge leads edge known numbered live =>
      cases answered
      exact .inr (.inl (Arena.relation?_attach numbered))
  | addProperty leads property known numbered live releases =>
      cases answered
      exact .inr (.inl (Arena.relation?_attach (numbered.trans releases.relations_next.symm)))
  | findProperty leads property live set =>
      cases answered
      exact .inl (.inl (sound.arena.mem_liveProperties_iff.1 live))
  | removeRelation relation live =>
      cases answered
      exact .inl (.inl (sound.arena.mem_live_iff.1 live))
  | refuse => cases answered
  | addVertex => cases answered
  | commit => cases answered
  | rollback => cases answered

/-- A property that was live before is answered for a set only, and nothing changes. -/
theorem refound (served : event.Served) {property : Property}
    (answered : event.outcome.result = .ok (.property property))
    (present : (event.before.arena.relation? property.id).isSome) :
    property.key.cardinality = .set ∧
      event.before.arena.relation? property.id = some (.property property) ∧
      event.outcome.scope = event.before := by
  obtain ⟨before, outcome⟩ := event
  obtain ⟨catalog, request, sound, effect⟩ := served
  dsimp only at effect answered present ⊢
  cases effect with
  | findProperty leads found live set =>
      cases answered
      exact ⟨set, sound.arena.mem_liveProperties_iff.1 live, rfl⟩
  | addProperty leads added known numbered live releases =>
      cases answered
      obtain ⟨relation, found⟩ := Option.isSome_iff_exists.1 present
      exact absurd (Slots.lt_next found) (by rw [numbered]; exact Nat.lt_irrefl _)
  | refuse => cases answered
  | addVertex => cases answered
  | addEdge => cases answered
  | removeRelation => cases answered
  | commit => cases answered
  | rollback => cases answered

end Served

end Event

end PropertyGraph
