import PropertyGraph.Proofs.Arena.Unnumbered

/-!
# Releases commute

Releasing a relation erases one slot, counts down by one and drops the entries
of one id at some vertices.  Each of these commutes with the same for another
relation, even where the two share endpoints, so the order in which relations
are released makes no difference to the arena.
-/

namespace PropertyGraph

theorem Slots.erase_comm {α : Type} (slots : Slots α) (first second : Nat) :
    (slots.erase first).erase second = (slots.erase second).erase first := by
  by_cases same : first = second
  · rw [same]
  · exact congrArg Slots.mk (List.set_comm none none same)

theorem Index.without_comm (index : Index) (first second : RelationId) :
    (index.without first).without second = (index.without second).without first := by
  simp only [without, List.filter_filter, Bool.and_comm]

/-- Changes of the index that commute also commute as changes of vertices. -/
theorem Vertex.touch_comm (firstIds secondIds : List VertexId)
    {first second : VertexId → Index → Index}
    (commute : ∀ id index, second id (first id index) = first id (second id index)) :
    Vertex.touch secondIds second ∘ Vertex.touch firstIds first =
      Vertex.touch firstIds first ∘ Vertex.touch secondIds second := by
  funext vertex
  by_cases inFirst : vertex.id ∈ firstIds <;> by_cases inSecond : vertex.id ∈ secondIds <;>
    simp [touch, inFirst, inSecond, commute]

namespace Arena

theorem release_comm (arena : Arena) (first second : Relation) :
    (arena.release first).release second = (arena.release second).release first := by
  have vertices : Vertex.touch second.endpoints (fun _ index => index.without second.id) ∘
        Vertex.touch first.endpoints (fun _ index => index.without first.id) =
      Vertex.touch first.endpoints (fun _ index => index.without first.id) ∘
        Vertex.touch second.endpoints (fun _ index => index.without second.id) :=
    Vertex.touch_comm _ _ fun _ index => index.without_comm first.id second.id
  have relations := arena.relations.erase_comm first.id.number second.id.number
  simp only [release, eraseRelation, touch, Slots.map, List.map_map, Option.map_comp_map, vertices,
    relations]

/-- Releasing a relation leaves the relations of all other ids. -/
theorem relation?_release (arena : Arena) {relation : Relation} {id : RelationId}
    (apart : id ≠ relation.id) : (arena.release relation).relation? id = arena.relation? id := by
  change (arena.relations.erase relation.id.number).get? id.number = _
  rw [Slots.get?_erase, if_neg fun same => apart (RelationId.number_inj.1 same)]
  rfl

/-- Releasing what an id refers to leaves the relations of all other ids. -/
theorem Consistent.relation?_releaseAll_singleton {arena : Arena} (consistent : arena.Consistent)
    {id other : RelationId} (apart : other ≠ id) :
    (arena.releaseAll [id]).relation? other = arena.relation? other := by
  cases found : arena.relation? id with
  | none => simp only [releaseAll, found]
  | some relation =>
      have same := consistent.id_of_relation? found
      simp only [releaseAll, found]
      exact arena.relation?_release (same ▸ apart)

/-- Two ids may be released in either order, whichever of them refer to a relation. -/
theorem Consistent.releaseAll_comm {arena : Arena} (consistent : arena.Consistent)
    {first second : RelationId} (apart : first ≠ second) :
    arena.releaseAll [first, second] = arena.releaseAll [second, first] := by
  have firstKept := consistent.relation?_releaseAll_singleton apart
  have secondKept := consistent.relation?_releaseAll_singleton apart.symm
  cases foundFirst : arena.relation? first with
  | none =>
      cases foundSecond : arena.relation? second with
      | none => simp only [releaseAll, foundFirst, foundSecond]
      | some relation =>
          simp only [releaseAll, foundFirst, foundSecond] at firstKept ⊢
          rw [firstKept]
  | some relation =>
      cases foundSecond : arena.relation? second with
      | none =>
          simp only [releaseAll, foundFirst, foundSecond] at secondKept ⊢
          rw [secondKept]
      | some other =>
          simp only [releaseAll, foundFirst, foundSecond] at firstKept secondKept ⊢
          simp only [firstKept, secondKept, release_comm]

theorem releaseAll_append (arena : Arena) (front rest : List RelationId) :
    arena.releaseAll (front ++ rest) = (arena.releaseAll front).releaseAll rest := by
  induction front generalizing arena with
  | nil => rfl
  | cons id front ih =>
      simp only [List.cons_append, releaseAll]
      split
      next => exact ih arena
      next relation _ => exact ih (arena.release relation)

/-- Different ids may be released in any order. -/
theorem Consistent.releaseAll_perm {arena : Arena} (consistent : arena.Consistent)
    {ids others : List RelationId} (permuted : ids.Perm others) (distinct : ids.Nodup) :
    arena.releaseAll ids = arena.releaseAll others := by
  induction permuted generalizing arena with
  | nil => rfl
  | @cons id rest others _ ih =>
      have released := (releaseAll_releases arena [id]).consistent consistent
      calc arena.releaseAll (id :: rest)
          = (arena.releaseAll [id]).releaseAll rest := arena.releaseAll_append [id] rest
        _ = (arena.releaseAll [id]).releaseAll others :=
          ih released (List.nodup_cons.1 distinct).2
        _ = arena.releaseAll (id :: others) := (arena.releaseAll_append [id] others).symm
  | swap first second rest =>
      have apart : second ≠ first := fun same =>
        (List.nodup_cons.1 distinct).1 (same ▸ List.mem_cons_self)
      calc arena.releaseAll (second :: first :: rest)
          = (arena.releaseAll [second, first]).releaseAll rest :=
          arena.releaseAll_append [second, first] rest
        _ = (arena.releaseAll [first, second]).releaseAll rest := by
          rw [consistent.releaseAll_comm apart]
        _ = arena.releaseAll (first :: second :: rest) :=
          (arena.releaseAll_append [first, second] rest).symm
  | trans earlier _ ihEarlier ihLater =>
      exact (ihEarlier consistent distinct).trans
        (ihLater consistent (earlier.nodup_iff.1 distinct))

end Arena

end PropertyGraph
