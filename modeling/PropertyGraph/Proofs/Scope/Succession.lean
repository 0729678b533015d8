import PropertyGraph.Proofs.Scope.Soundness

/-!
# Succession

A scope knows the relations of its arena and those of its last commit: these
are what a rollback can bring back.  Whatever a request does, the next numbers
never go down, and a relation that is known afterwards either was known before
or has a number that was not handed out before.  So over any stretch of time
two known relations of one id are one relation.
-/

namespace PropertyGraph.Scope

/-- The relation is live, or it was live at the last commit. -/
def Knows (scope : Scope) (relation : Relation) : Prop :=
  scope.arena.relation? relation.id = some relation ∨
    scope.base.relation? relation.id = some relation

/-- The later scope hands out later numbers, and what it knows is known already or has such one. -/
structure Succeeds (later earlier : Scope) : Prop where
  vertices_next : earlier.arena.vertices.next ≤ later.arena.vertices.next
  relations_next : earlier.arena.relations.next ≤ later.arena.relations.next
  known : ∀ relation, later.Knows relation →
    earlier.Knows relation ∨ earlier.arena.relations.next ≤ relation.id.number

namespace Succeeds

theorem refl (scope : Scope) : scope.Succeeds scope :=
  ⟨Nat.le_refl _, Nat.le_refl _, fun _ known => .inl known⟩

theorem trans {first second third : Scope} (earlier : second.Succeeds first)
    (later : third.Succeeds second) : third.Succeeds first where
  vertices_next := Nat.le_trans earlier.vertices_next later.vertices_next
  relations_next := Nat.le_trans earlier.relations_next later.relations_next
  known relation known := by
    rcases later.known relation known with before | new
    · exact earlier.known relation before
    · exact .inr (Nat.le_trans earlier.relations_next new)

end Succeeds

namespace Sound

variable {scope : Scope} {catalog : Catalog}

/-- A known relation has a number that was handed out. -/
theorem lt_next (sound : scope.Sound catalog) {relation : Relation}
    (known : scope.Knows relation) : relation.id.number < scope.arena.relations.next := by
  rcases known with live | committed
  · exact Slots.lt_next live
  · exact Nat.lt_of_lt_of_le (Slots.lt_next committed) sound.follows.relations_next

/--
Known relations of one id are one relation: under a number of the last commit
there is nothing but what was committed under it.
-/
theorem eq_of_id (sound : scope.Sound catalog) {first second : Relation}
    (firstKnown : scope.Knows first) (secondKnown : scope.Knows second)
    (same : first.id = second.id) : first = second := by
  have settled (relation : Relation) (live : scope.arena.relation? relation.id = some relation)
      (other : Relation) (committed : scope.base.relation? other.id = some other)
      (same : relation.id = other.id) : relation = other := by
    rw [same] at live
    have before := sound.follows.relations _ (Slots.lt_next committed) relation live
    exact Option.some.inj (before.symm.trans committed)
  rcases firstKnown with firstLive | firstCommitted
  · rcases secondKnown with secondLive | secondCommitted
    · rw [same] at firstLive
      exact Option.some.inj (firstLive.symm.trans secondLive)
    · exact settled first firstLive second secondCommitted same
  · rcases secondKnown with secondLive | secondCommitted
    · exact (settled second secondLive first firstCommitted same.symm).symm
    · rw [same] at firstCommitted
      exact Option.some.inj (firstCommitted.symm.trans secondCommitted)

end Sound

/-- Whatever a request does to a scope, the scope after it succeeds the scope before it. -/
theorem Effect.succeeds {scope : Scope} {catalog : Catalog} {request : Request}
    {outcome : Outcome Answer} (effect : Effect scope catalog request outcome)
    (sound : scope.Sound catalog) : outcome.scope.Succeeds scope := by
  rcases effect.edits_or_teardown with ⟨arena, same, edited⟩ | ⟨-, same⟩ | ⟨-, same⟩
  · have follows := Arena.Follows.edits edited
    rw [same]
    refine ⟨follows.vertices_next, follows.relations_next, ?_⟩
    intro relation known
    rcases known with live | committed
    · rcases Nat.lt_or_ge relation.id.number scope.arena.relations.next with old | new
      · exact .inl (.inl (follows.relations _ old relation live))
      · exact .inr new
    · exact .inl (.inr committed)
  · rw [same]
    refine ⟨?_, Nat.le_refl _, ?_⟩
    · exact Nat.le_of_eq (Slots.next_map scope.arena.vertices _).symm
    · intro relation known
      rcases known with live | committed
      · exact .inl (.inl live)
      · exact .inl (.inl committed)
  · rw [same, sound.rollback_eq]
    refine ⟨?_, ?_, ?_⟩
    · simp [Arena.withSlotsOf]
    · simp [Arena.withSlotsOf]
    · intro relation known
      rcases known with live | committed
      · refine .inl (.inr ?_)
        exact (Slots.get?_resize _ sound.follows.relations_next _).symm.trans live
      · exact .inl (.inr committed)

/-- Relations known at two moments, the one after the other, are one relation if their ids are. -/
theorem Succeeds.eq_of_id {later earlier : Scope} (succeeds : later.Succeeds earlier)
    {catalog : Catalog} (sound : earlier.Sound catalog) {first second : Relation}
    (firstKnown : earlier.Knows first) (secondKnown : later.Knows second)
    (same : first.id = second.id) : first = second := by
  rcases succeeds.known second secondKnown with before | new
  · exact sound.eq_of_id firstKnown before same
  · rw [← same] at new
    exact absurd (sound.lt_next firstKnown) (Nat.not_lt.2 new)

end PropertyGraph.Scope
