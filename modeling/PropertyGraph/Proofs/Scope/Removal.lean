import PropertyGraph.Proofs.Arena.Commutation
import PropertyGraph.Proofs.Scope.Soundness

/-!
# Removing relations

A removal answers the relation that its id refers to, or that there is none,
and leaves everything else of the scope as it is.
-/

namespace PropertyGraph.Scope

variable {scope : Scope} {catalog : Catalog}

def removal (scope : Scope) (id : RelationId) : Except Failure Answer :=
  match scope.arena.relation? id with
  | none => .error (.error (.relationNotFound id))
  | some relation => .ok (.relation relation)

/-- The scope without those of the given relations that are live. -/
def without (scope : Scope) (ids : List RelationId) : Scope :=
  { scope with arena := scope.arena.releaseAll ids }

theorem removal_of_relation? {id : RelationId} {relation : Relation}
    (found : scope.arena.relation? id = some relation) :
    scope.removal id = .ok (.relation relation) ∧
      scope.without [id] = { scope with arena := scope.arena.release relation } := by
  constructor
  · simp only [removal, found]
  · simp only [without, Arena.releaseAll, found]

/-- Removing does what it answers and nothing else, and never breaks a promise. -/
theorem Sound.serve_removal (sound : scope.Sound catalog) (id : RelationId) :
    scope.serve catalog (.removeRelation id) = ⟨scope.removal id, scope.without [id], catalog⟩ := by
  cases found : scope.arena.relation? id with
  | none =>
      simp only [Scope.serve, removeRelation, Arena.Consistent.detach_eq_none found, removal,
        without, Arena.releaseAll, found]
      rfl
  | some relation =>
      obtain ⟨answered, left⟩ := removal_of_relation? found
      simp only [Scope.serve, removeRelation, sound.arena.detach_eq_release found, answered, left]
      rfl

/-- A removal does not change what removing another relation answers. -/
theorem Sound.removal_without (sound : scope.Sound catalog) {id other : RelationId}
    (apart : other ≠ id) : (scope.without [id]).removal other = scope.removal other := by
  have kept := sound.arena.relation?_releaseAll_singleton apart
  simp only [removal, without, kept]

end PropertyGraph.Scope
