import PropertyGraph.Proofs.Arena.Change

/-!
# Releasing what was attached

A relation that is attached and released again leaves every index as it was,
with each list in its order: the entries that were filed are dropped, and there
were none of that id before.  What remains is a mark on the endpoints and an
empty slot under the number that was used.
-/

namespace PropertyGraph

namespace Slots

variable {α : Type}

/-- Only what is done to the live entries matters. -/
theorem map_congr {slots : Slots α} {first second : α → α}
    (agree : ∀ entry ∈ slots.live, first entry = second entry) :
    slots.map first = slots.map second := by
  refine congrArg Slots.mk (List.map_congr_left fun cell member => ?_)
  cases cell with
  | none => rfl
  | some entry =>
      have live : entry ∈ slots.live := List.mem_filterMap.2 ⟨some entry, member, rfl⟩
      exact congrArg some (agree entry live)

/-- An entry that is added and erased again leaves an empty slot behind. -/
theorem erase_push (slots : Slots α) (entry : α) :
    (slots.push entry).erase slots.next = slots.resize (slots.next + 1) := by
  have whole : slots.cells.take (slots.cells.length + 1) = slots.cells :=
    List.take_of_length_le (Nat.le_succ _)
  simp [push, erase, resize, next, whole]

end Slots

/-- Dropping a relation's entries drops those that were just filed for it. -/
theorem Index.without_file (index : Index) (vertex : VertexId) (relation : Relation) :
    (index.file vertex [relation]).without relation.id = index.without relation.id := by
  have gone (keep : Relation → Bool) :
      (([relation].filter keep).map Relation.entry).filter
        (fun entry => entry.relation ≠ relation.id) = [] := by
    rw [List.filter_eq_nil_iff]
    intro entry filed
    obtain ⟨other, member, rfl⟩ := List.mem_map.1 filed
    rw [List.mem_singleton.1 (List.mem_of_mem_filter member)]
    simp
  simp only [without, file, List.filter_append, gone, List.append_nil]

namespace Arena

variable {arena : Arena}

def mark (arena : Arena) (ids : List VertexId) : Arena := arena.touch ids fun _ index => index

/-- The arena with the next relation number passed over. -/
def skipRelation (arena : Arena) : Arena :=
  { arena with relations := arena.relations.resize (arena.relations.next + 1) }

/-- Nothing is filed under the next relation number. -/
theorem Consistent.contains_next (consistent : arena.Consistent) {vertex : Vertex}
    (live : vertex ∈ arena.vertices.live) {id : RelationId}
    (next : id.number = arena.relations.next) : vertex.index.contains id = false := by
  rw [consistent.indexed vertex live, ← Bool.not_eq_true, Index.contains_ofRelations]
  rintro ⟨relation, relationLive, -, rfl⟩
  have below := Slots.lt_next (consistent.mem_live_iff.1 relationLive)
  exact Nat.ne_of_lt below next

/-- What was attached under the next number and is released again leaves marks and a slot. -/
theorem Consistent.release_attach (consistent : arena.Consistent) {relation : Relation}
    (numbered : relation.id.number = arena.relations.next) :
    (arena.attach relation).release relation =
      (arena.mark relation.endpoints).skipRelation := by
  have vertices : arena.vertices.map
        (Vertex.touch relation.endpoints (fun _ index => index.without relation.id) ∘
          Vertex.touch relation.endpoints fun vertex index => index.file vertex [relation]) =
      arena.vertices.map (Vertex.touch relation.endpoints fun _ index => index) := by
    apply Slots.map_congr
    intro vertex live
    have unfiled := Index.without_eq_self (consistent.contains_next live numbered)
    by_cases among : vertex.id ∈ relation.endpoints
    · simp [Vertex.touch, among, Index.without_file, unfiled]
    · simp [Vertex.touch, among]
  have relations : (arena.relations.push relation).erase relation.id.number =
      arena.relations.resize (arena.relations.next + 1) := by
    rw [numbered, Slots.erase_push]
  simp only [Slots.map, Slots.mk.injEq] at vertices
  simp only [Arena.attach, Arena.release, eraseRelation, pushRelation, touch, mark, skipRelation,
    relations, Slots.map, List.map_map, Option.map_comp_map, vertices, Nat.add_sub_cancel]

/-- Marks are all that marking changes. -/
theorem unmark_mark (arena : Arena) (ids : List VertexId) :
    (arena.mark ids).unmark = arena.unmark := by
  have same : (fun vertex : Vertex => { vertex with modified := false }) ∘
      Vertex.touch ids (fun _ index => index) =
        fun vertex => { vertex with modified := false } := by
    funext vertex
    by_cases among : vertex.id ∈ ids <;> simp [Vertex.touch, among]
  simp only [unmark, mark, touch, Slots.map, List.map_map, Option.map_comp_map, same]

end Arena

end PropertyGraph
