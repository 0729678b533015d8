import Mathlib.Logic.Relation
import PropertyGraph.Proofs.Arena.Change
import PropertyGraph.Proofs.Catalog.Growth
import PropertyGraph.Scope.Basic

/-!
# Edits

Between two teardowns an arena changes by edits only: a vertex is added, a
relation with the next number is attached to live vertices, or a live relation
is released.  Edits keep an arena sound, and an edited arena follows the
earlier one: no number is handed out twice, no vertex is lost, and what is live
under an old number was live under it before.
-/

namespace PropertyGraph

def Relation.KnownTo (catalog : Catalog) : Relation → Prop
  | edge e => e.label ∈ catalog.edgeLabels.entries
  | property p => p.key ∈ catalog.propertyKeys.entries

theorem Relation.KnownTo.grow {catalog grown : Catalog} (grows : catalog.Grows grown)
    {relation : Relation} (known : relation.KnownTo catalog) : relation.KnownTo grown := by
  cases relation with
  | edge e => exact grows.edgeLabels.mem known
  | property p => exact grows.propertyKeys.mem known

namespace Arena

/-- A consistent arena all of whose labels and keys are in the catalog. -/
structure Sound (arena : Arena) (catalog : Catalog) : Prop extends arena.Consistent where
  labels_known : ∀ vertex ∈ arena.vertices.live, vertex.label ∈ catalog.vertexLabels.entries
  types_known : ∀ relation ∈ arena.relations.live, relation.KnownTo catalog

/-- The later arena has the vertices of the earlier and no other relation under an old number. -/
structure Follows (later earlier : Arena) : Prop where
  vertices_next : earlier.vertices.next ≤ later.vertices.next
  relations_next : earlier.relations.next ≤ later.relations.next
  vertices : ∀ number < earlier.vertices.next,
    (later.vertices.get? number).map Vertex.label =
      (earlier.vertices.get? number).map Vertex.label
  relations : ∀ number < earlier.relations.next, ∀ relation,
    later.relations.get? number = some relation → earlier.relations.get? number = some relation

namespace Follows

theorem refl (arena : Arena) : arena.Follows arena :=
  ⟨Nat.le_refl _, Nat.le_refl _, fun _ _ => rfl, fun _ _ _ found => found⟩

theorem trans {last middle first : Arena} (later : last.Follows middle)
    (earlier : middle.Follows first) : last.Follows first where
  vertices_next := Nat.le_trans earlier.vertices_next later.vertices_next
  relations_next := Nat.le_trans earlier.relations_next later.relations_next
  vertices number old :=
    (later.vertices number (Nat.lt_of_lt_of_le old earlier.vertices_next)).trans
      (earlier.vertices number old)
  relations number old relation found :=
    earlier.relations number old relation
      (later.relations number (Nat.lt_of_lt_of_le old earlier.relations_next) relation found)

/-- No vertex is lost. -/
theorem vertexLive {later earlier : Arena} (follows : later.Follows earlier) {id : VertexId}
    (live : (earlier.vertex? id).isSome) : (later.vertex? id).isSome := by
  obtain ⟨vertex, found⟩ := Option.isSome_iff_exists.1 live
  have present := congrArg Option.isSome (follows.vertices id.number (Slots.lt_next found))
  rw [Option.isSome_map, Option.isSome_map] at present
  exact present.trans live

theorem fresh {arena : Arena} (consistent : arena.Consistent) : arena.Follows .fresh where
  vertices_next := consistent.vertices_begun.next_pos
  relations_next := consistent.relations_begun.next_pos
  vertices number old := by
    rw [Nat.lt_one_iff.1 old, consistent.vertices_begun.zero_empty]
    rfl
  relations number old relation found := by
    rw [Nat.lt_one_iff.1 old, consistent.relations_begun.zero_empty] at found
    cases found

end Follows

/-- The later arena is the earlier one without some live relation. -/
def Release (earlier later : Arena) : Prop :=
  ∃ relation ∈ earlier.relations.live, later = earlier.release relation

/-- The later arena is the earlier one with some live relations released in turn. -/
def Releases : Arena → Arena → Prop := Relation.ReflTransGen Release

/-- One change of an arena within a scope. -/
inductive Edit (catalog : Catalog) (arena : Arena) : Arena → Prop where
  | addVertex (label : VertexLabel) (known : label ∈ catalog.vertexLabels.entries) :
      Edit catalog arena (arena.addVertex label).2
  | attach (relation : Relation) (numbered : relation.id.number = arena.relations.next)
      (live : ∀ id ∈ relation.endpoints, (arena.vertex? id).isSome)
      (known : relation.KnownTo catalog) : Edit catalog arena (arena.attach relation)
  | release (relation : Relation) (live : relation ∈ arena.relations.live) :
      Edit catalog arena (arena.release relation)

def Edits (catalog : Catalog) : Arena → Arena → Prop := Relation.ReflTransGen (Edit catalog)

namespace Sound

variable {arena : Arena} {catalog : Catalog}

theorem fresh (catalog : Catalog) : Arena.fresh.Sound catalog :=
  ⟨.fresh, by simp [Arena.fresh], by simp [Arena.fresh]⟩

theorem label_known (sound : arena.Sound catalog) {edge : Edge}
    (live : edge ∈ arena.liveEdges) : edge.label ∈ catalog.edgeLabels.entries :=
  sound.types_known (.edge edge) (mem_liveEdges.1 live)

theorem key_known (sound : arena.Sound catalog) {property : Property}
    (live : property ∈ arena.liveProperties) : property.key ∈ catalog.propertyKeys.entries :=
  sound.types_known (.property property) (mem_liveProperties.1 live)

theorem grow {grown : Catalog} (grows : catalog.Grows grown) (sound : arena.Sound catalog) :
    arena.Sound grown :=
  ⟨sound.toConsistent, fun vertex live => grows.vertexLabels.mem (sound.labels_known vertex live),
    fun relation live => (sound.types_known relation live).grow grows⟩

theorem unmark (sound : arena.Sound catalog) : arena.unmark.Sound catalog := by
  refine ⟨sound.toConsistent.unmark, ?_, sound.types_known⟩
  intro vertex member
  simp only [Arena.unmark, Slots.live_map, List.mem_map] at member
  obtain ⟨before, beforeLive, rfl⟩ := member
  exact sound.labels_known before beforeLive

theorem withSlotsOf (sound : arena.Sound catalog) {other : Arena} (follows : other.Follows arena) :
    (arena.withSlotsOf other).Sound catalog := by
  refine ⟨sound.toConsistent.withSlotsOf follows.vertices_next follows.relations_next, ?_, ?_⟩
  · rw [Arena.withSlotsOf, Slots.live_resize _ follows.vertices_next]
    exact sound.labels_known
  · rw [Arena.withSlotsOf, Slots.live_resize _ follows.relations_next]
    exact sound.types_known

theorem edit (sound : arena.Sound catalog) {later : Arena} (edit : Edit catalog arena later) :
    later.Sound catalog := by
  cases edit with
  | addVertex label known =>
      refine ⟨sound.toConsistent.addVertex label, ?_, sound.types_known⟩
      intro vertex member
      simp only [Arena.addVertex, Slots.live_push, List.mem_append, List.mem_singleton] at member
      rcases member with old | rfl
      · exact sound.labels_known vertex old
      · exact known
  | attach relation numbered live known =>
      refine ⟨sound.toConsistent.attach numbered live, ?_, ?_⟩
      · intro vertex member
        simp only [Arena.attach, pushRelation, vertices_touch, Slots.live_map,
          List.mem_map] at member
        obtain ⟨before, beforeLive, rfl⟩ := member
        rw [Vertex.touch_label]
        exact sound.labels_known before beforeLive
      · intro other member
        simp only [Arena.attach, pushRelation, relations_touch, Slots.live_push, List.mem_append,
          List.mem_singleton] at member
        rcases member with old | rfl
        · exact sound.types_known other old
        · exact known
  | release relation live =>
      refine ⟨sound.toConsistent.release live, ?_, ?_⟩
      · intro vertex member
        simp only [Arena.release, eraseRelation, vertices_touch, Slots.live_map,
          List.mem_map] at member
        obtain ⟨before, beforeLive, rfl⟩ := member
        rw [Vertex.touch_label]
        exact sound.labels_known before beforeLive
      · intro other member
        rw [sound.toConsistent.live_release] at member
        exact sound.types_known other (List.mem_of_mem_filter member)

theorem edits (sound : arena.Sound catalog) {later : Arena} (edits : Edits catalog arena later) :
    later.Sound catalog := by
  induction edits with
  | refl => exact sound
  | tail _ last ih => exact ih.edit last

end Sound

namespace Follows

variable {arena later : Arena} {catalog : Catalog}

theorem of_vertices_map (change : Vertex → Vertex)
    (vertices : later.vertices = arena.vertices.map change)
    (keeps : ∀ vertex, (change vertex).label = vertex.label)
    (relations_next : arena.relations.next ≤ later.relations.next)
    (relations : ∀ number < arena.relations.next, ∀ relation,
      later.relations.get? number = some relation →
        arena.relations.get? number = some relation) : later.Follows arena := by
  refine ⟨by simp [vertices], relations_next, ?_, relations⟩
  intro number _
  rw [vertices, Slots.get?_map, Option.map_map]
  congr 1
  funext vertex
  exact keeps vertex

theorem release (arena : Arena) (relation : Relation) :
    (arena.release relation).Follows arena := by
  apply of_vertices_map _ rfl (by simp) (by simp [Arena.release, eraseRelation])
  intro number _ other found
  change (arena.relations.erase relation.id.number).get? number = some other at found
  rw [Slots.get?_erase] at found
  split at found
  next => cases found
  next => exact found

theorem edit (edit : Edit catalog arena later) : later.Follows arena := by
  cases edit with
  | addVertex label known =>
      refine ⟨by simp [Arena.addVertex], Nat.le_refl _, ?_, fun _ _ _ found => found⟩
      intro number old
      simp only [Arena.addVertex]
      rw [Slots.get?_push, if_neg (Nat.ne_of_lt old)]
  | attach relation numbered live known =>
      apply of_vertices_map _ rfl (by simp) (by simp [Arena.attach, pushRelation])
      intro number old other found
      change (arena.relations.push relation).get? number = some other at found
      rwa [Slots.get?_push, if_neg (Nat.ne_of_lt old)] at found
  | release relation live => exact release arena relation

theorem edits (edits : Edits catalog arena later) : later.Follows arena := by
  induction edits with
  | refl => exact refl arena
  | tail _ last ih => exact (edit last).trans ih

end Follows

namespace Releases

variable {earlier later : Arena}

theorem consistent (releases : earlier.Releases later) (before : earlier.Consistent) :
    later.Consistent := by
  induction releases with
  | refl => exact before
  | tail _ last ih =>
      obtain ⟨relation, live, rfl⟩ := last
      exact ih.release live

theorem edits (catalog : Catalog) (releases : earlier.Releases later) :
    Edits catalog earlier later := by
  induction releases with
  | refl => exact .refl
  | tail _ last ih =>
      obtain ⟨relation, live, rfl⟩ := last
      exact ih.tail (.release relation live)

theorem relations_next (releases : earlier.Releases later) :
    later.relations.next = earlier.relations.next := by
  induction releases with
  | refl => rfl
  | tail _ last ih =>
      obtain ⟨relation, live, rfl⟩ := last
      simpa [Arena.release, eraseRelation] using ih

theorem vertices_next (releases : earlier.Releases later) :
    later.vertices.next = earlier.vertices.next := by
  induction releases with
  | refl => rfl
  | tail _ last ih =>
      obtain ⟨relation, live, rfl⟩ := last
      simpa [Arena.release, eraseRelation] using ih

theorem vertexLive (releases : earlier.Releases later) (id : VertexId) :
    (later.vertex? id).isSome = (earlier.vertex? id).isSome := by
  induction releases with
  | refl => rfl
  | tail _ last ih =>
      obtain ⟨relation, live, rfl⟩ := last
      rw [Arena.release, Consistent.vertexLive_touch]
      exact ih

end Releases

/-- Detaching relations in turn releases those that are live, and leaves the others. -/
theorem Consistent.detachAll_eq_ok {arena : Arena} (consistent : arena.Consistent)
    (ids : List RelationId) :
    ∃ cleared, arena.detachAll ids = .ok cleared ∧ arena.Releases cleared ∧
      cleared.relations.live = arena.relations.live.filter fun relation => relation.id ∉ ids := by
  induction ids generalizing arena with
  | nil =>
      refine ⟨arena, rfl, .refl, ?_⟩
      simp
  | cons id rest ih =>
      cases found : arena.relation? id with
      | none =>
          obtain ⟨cleared, detached, releases, live⟩ := ih consistent
          refine ⟨cleared, ?_, releases, ?_⟩
          · simp only [detachAll, detach_eq_none found, detached]
          · rw [live]
            apply List.filter_congr
            intro relation member
            have apart : relation.id ≠ id := by
              rintro rfl
              rw [consistent.mem_live_iff.1 member] at found
              cases found
            simp [apart]
      | some relation =>
          have same := consistent.id_of_relation? found
          have member := mem_live_of_relation? found
          obtain ⟨cleared, detached, releases, live⟩ := ih (consistent.release member)
          refine ⟨cleared, ?_, releases.head ⟨relation, member, rfl⟩, ?_⟩
          · simp only [detachAll, consistent.detach_eq_release found, detached]
          · rw [live, consistent.live_release, List.filter_filter, same]
            apply List.filter_congr
            intro other _
            simp [Bool.and_comm]

end Arena

end PropertyGraph
