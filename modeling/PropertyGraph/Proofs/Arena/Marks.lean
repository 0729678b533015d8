import PropertyGraph.Proofs.Scope.Soundness
import PropertyGraph.Proofs.Scope.Storing

/-!
# Marks of modification

Attaching and releasing a relation mark the vertices that it belongs to, and
no other change marks a vertex.  So a vertex that is not marked after edits has
kept its index and all the relations around it.
-/

namespace PropertyGraph.Arena

def isMarked (arena : Arena) (id : VertexId) : Bool := (arena.vertex? id).any Vertex.modified

/-- The live relations that belong to the vertex, in ascending order of their ids. -/
def around (arena : Arena) (id : VertexId) : List Relation :=
  arena.relations.live.filter (·.isIncidentOn id)

/--
Live vertices stay live, and one that the later arena does not mark has kept
its record and its relations.
-/
structure KeepsUnmarked (earlier later : Arena) : Prop where
  live : ∀ id, (earlier.vertex? id).isSome → (later.vertex? id).isSome
  vertex? : ∀ id, (earlier.vertex? id).isSome → later.isMarked id = false →
    later.vertex? id = earlier.vertex? id
  around : ∀ id, (earlier.vertex? id).isSome → later.isMarked id = false →
    later.around id = earlier.around id

namespace KeepsUnmarked

theorem refl (arena : Arena) : arena.KeepsUnmarked arena :=
  ⟨fun _ live => live, fun _ _ _ => rfl, fun _ _ _ => rfl⟩

theorem trans {first middle last : Arena} (earlier : first.KeepsUnmarked middle)
    (later : middle.KeepsUnmarked last) : first.KeepsUnmarked last := by
  have between (id : VertexId) (live : (first.vertex? id).isSome)
      (unmarked : last.isMarked id = false) : middle.isMarked id = false := by
    rwa [isMarked, ← later.vertex? id (earlier.live id live) unmarked]
  refine ⟨fun id live => later.live id (earlier.live id live), ?_, ?_⟩
  · intro id live unmarked
    exact (later.vertex? id (earlier.live id live) unmarked).trans
      (earlier.vertex? id live (between id live unmarked))
  · intro id live unmarked
    exact (later.around id (earlier.live id live) unmarked).trans
      (earlier.around id live (between id live unmarked))

end KeepsUnmarked

variable {arena : Arena} {id : VertexId}

@[simp] theorem isMarked_unmark : arena.unmark.isMarked id = false := by
  rw [isMarked, vertex?_unmark, Option.any_map]
  cases arena.vertex? id <;> rfl

/-- The ids of the marked vertices. -/
theorem mem_modifiedVertices_iff (consistent : arena.Consistent) :
    id ∈ arena.modifiedVertices.map Vertex.id ↔ arena.isMarked id = true := by
  rw [isMarked, Option.any_eq_true, List.mem_map]
  constructor
  · rintro ⟨vertex, member, rfl⟩
    obtain ⟨live, modified⟩ := List.mem_filter.1 member
    exact ⟨vertex, consistent.vertices_numbered.mem_live_iff.1 live, modified⟩
  · rintro ⟨vertex, found, modified⟩
    exact ⟨vertex, List.mem_filter.2 ⟨Consistent.mem_live_of_vertex? found, modified⟩,
      id_of_vertex? consistent.vertices_numbered found⟩

/-! ## What marks a vertex -/

section

variable (numbered : arena.vertices.Numbered fun vertex => vertex.id.number)
  {ids : List VertexId} (change : VertexId → Index → Index)
include numbered

theorem vertex?_touch_of_not_mem (apart : id ∉ ids) :
    (arena.touch ids change).vertex? id = arena.vertex? id := by
  rw [vertex?_touch]
  cases found : arena.vertex? id with
  | none => rfl
  | some vertex =>
      have same := id_of_vertex? numbered found
      rw [Option.map_some, Vertex.touch, if_neg (same ▸ apart)]

/-- Touching marks the touched vertices, if they are live. -/
theorem isMarked_touch (live : ∀ id ∈ ids, (arena.vertex? id).isSome) (id : VertexId) :
    (arena.touch ids change).isMarked id = (arena.isMarked id || id ∈ ids) := by
  by_cases among : id ∈ ids
  · obtain ⟨vertex, found⟩ := Option.isSome_iff_exists.1 (live id among)
    have same := id_of_vertex? numbered found
    rw [isMarked, vertex?_touch, found, Option.map_some, Vertex.touch, if_pos (same ▸ among)]
    simp [among]
  · rw [isMarked, vertex?_touch_of_not_mem numbered change among, isMarked]
    simp [among]

end

/-- A vertex is added unmarked. -/
theorem isMarked_addVertex (label : VertexLabel) :
    (arena.addVertex label).2.isMarked id = arena.isMarked id := by
  have pushed := arena.vertices.get?_push ⟨⟨arena.vertices.next⟩, label, .empty, false⟩ id.number
  rw [isMarked, isMarked]
  change ((arena.vertices.push _).get? id.number).any Vertex.modified = _
  rw [pushed]
  split
  next new =>
    have unknown : arena.vertex? id = none := by
      rw [vertex?, new, Slots.get?_next]
    rw [unknown]
    rfl
  next => rfl

theorem around_attach_of_apart {relation : Relation} (apart : relation.isIncidentOn id = false) :
    (arena.attach relation).around id = arena.around id := by
  change (arena.relations.push relation).live.filter _ = _
  rw [Slots.live_push, List.filter_append, List.filter_singleton, apart]
  exact List.append_nil _

namespace Consistent

variable (consistent : arena.Consistent) {relation : Relation}
include consistent

theorem isMarked_attach (live : ∀ id ∈ relation.endpoints, (arena.vertex? id).isSome)
    (id : VertexId) :
    (arena.attach relation).isMarked id = (arena.isMarked id || relation.isIncidentOn id) := by
  have touched := isMarked_touch consistent.vertices_numbered
    (fun vertex index => index.file vertex [relation]) live id
  simp only [relation.mem_endpoints_iff, Bool.decide_eq_true] at touched
  exact touched

theorem isMarked_release (live : relation ∈ arena.relations.live) (id : VertexId) :
    (arena.release relation).isMarked id = (arena.isMarked id || relation.isIncidentOn id) := by
  have numbered : (arena.eraseRelation relation.id).vertices.Numbered fun vertex =>
      vertex.id.number := consistent.vertices_numbered
  have touched := isMarked_touch numbered (fun _ index => index.without relation.id)
    (consistent.endpoints_live relation live) id
  simp only [relation.mem_endpoints_iff, Bool.decide_eq_true] at touched
  exact touched

section

variable (apart : relation.isIncidentOn id = false)
include apart

theorem vertex?_attach_of_apart : (arena.attach relation).vertex? id = arena.vertex? id := by
  apply vertex?_touch_of_not_mem consistent.vertices_numbered
  rw [relation.mem_endpoints_iff, apart]
  exact Bool.false_ne_true

theorem vertex?_release_of_apart : (arena.release relation).vertex? id = arena.vertex? id := by
  have numbered : (arena.eraseRelation relation.id).vertices.Numbered fun vertex =>
      vertex.id.number := consistent.vertices_numbered
  apply vertex?_touch_of_not_mem numbered
  rw [relation.mem_endpoints_iff, apart]
  exact Bool.false_ne_true

theorem around_release_of_apart (live : relation ∈ arena.relations.live) :
    (arena.release relation).around id = arena.around id := by
  rw [around, consistent.live_release, List.filter_filter]
  apply List.filter_congr
  intro other otherLive
  by_cases same : other.id = relation.id
  · rw [consistent.eq_of_id otherLive live same, apart]
    rfl
  · simp [same]

end

/-- Releasing relations of other vertices leaves a vertex as it is. -/
theorem vertex?_releaseAll {ids : List RelationId}
    (apart : ∀ relation ∈ arena.relations.live, relation.id ∈ ids →
      relation.isIncidentOn id = false) :
    (arena.releaseAll ids).vertex? id = arena.vertex? id := by
  induction ids generalizing arena with
  | nil => rfl
  | cons first rest ih =>
      unfold releaseAll
      split
      next =>
        exact ih consistent fun relation live member =>
          apart relation live (List.mem_cons_of_mem _ member)
      next relation found =>
        have live := mem_live_of_relation? found
        have outside := apart relation live
          (List.mem_cons.2 (.inl (consistent.id_of_relation? found)))
        rw [ih (consistent.release live), consistent.vertex?_release_of_apart outside]
        intro other otherLive member
        rw [consistent.live_release] at otherLive
        exact apart other (List.mem_of_mem_filter otherLive) (List.mem_cons_of_mem _ member)

end Consistent

/-- Storing finds an equal value, or it attaches a new property in place of some held ones. -/
theorem storeNamed_cases (arena : Arena) (owner : VertexId) (key : PropertyKey) (value : Value) :
    (∃ property ∈ arena.held owner key.name,
        arena.storeNamed owner key value = (property, arena)) ∨
      ∃ ids, ids ⊆ (arena.held owner key.name).map Property.id ∧
        arena.storeNamed owner key value = (⟨⟨arena.relations.next⟩, key, owner, value⟩,
          (arena.releaseAll ids).attach
            (.property ⟨⟨arena.relations.next⟩, key, owner, value⟩)) := by
  cases cardinality : key.cardinality with
  | single =>
      refine .inr ⟨_, List.Subset.refl _, ?_⟩
      simp only [storeNamed, cardinality]
  | list =>
      refine .inr ⟨[], List.nil_subset _, ?_⟩
      simp only [storeNamed, cardinality]
      rfl
  | set =>
      cases equal : (arena.held owner key.name).find? fun property =>
          property.value.equal value with
      | none =>
          refine .inr ⟨[], List.nil_subset _, ?_⟩
          simp only [storeNamed, cardinality, equal]
          rfl
      | some property =>
          refine .inl ⟨property, List.mem_of_find?_eq_some equal, ?_⟩
          simp only [storeNamed, cardinality, equal]

namespace Consistent

section

variable (consistent : arena.Consistent) {owner : VertexId} {name : String}
  {ids : List RelationId} (among : ids ⊆ (arena.held owner name).map Property.id)
include consistent among

/-- A live relation whose id is among those of held properties is a held property. -/
theorem held_of_mem {relation : Relation} (live : relation ∈ arena.relations.live)
    (member : relation.id ∈ ids) :
    ∃ property ∈ arena.held owner name, relation = .property property := by
  obtain ⟨property, held, sameId⟩ := List.mem_map.1 (among member)
  have propertyLive := mem_liveProperties.1 (List.mem_of_mem_filter held)
  exact ⟨property, held, consistent.eq_of_id live propertyLive sameId.symm⟩

/-- Releasing held properties of a vertex leaves every other vertex. -/
theorem vertex?_releaseAll_of_ne {id : VertexId} (other : id ≠ owner) :
    (arena.releaseAll ids).vertex? id = arena.vertex? id := by
  apply consistent.vertex?_releaseAll
  intro relation live member
  obtain ⟨property, held, rfl⟩ := consistent.held_of_mem among live member
  have place := (List.mem_filter.1 held).2
  rw [Bool.and_eq_true, decide_eq_true_eq] at place
  simpa [Relation.isIncidentOn, place.1] using Ne.symm other

end

/-- A new property marks its owner, whichever held ones it takes the place of. -/
theorem isMarked_replace (consistent : arena.Consistent) (property : Property)
    (live : (arena.vertex? property.owner).isSome) {name : String} {ids : List RelationId}
    (held : ids ⊆ (arena.held property.owner name).map Property.id) (id : VertexId) :
    ((arena.releaseAll ids).attach (.property property)).isMarked id =
      (arena.isMarked id || property.owner = id) := by
  have releases := releaseAll_releases arena ids
  have endpoints : ∀ id ∈ (Relation.property property).endpoints,
      ((arena.releaseAll ids).vertex? id).isSome := by
    simpa [Relation.endpoints, releases.vertexLive] using live
  rw [(releases.consistent consistent).isMarked_attach endpoints]
  by_cases here : property.owner = id
  · simp [Relation.isIncidentOn, here]
  · rw [isMarked, consistent.vertex?_releaseAll_of_ne held (Ne.symm here)]
    rfl

end Consistent

/-! ## What is not marked is not changed -/

/-- An edit keeps what it does not mark. -/
theorem Edit.keepsUnmarked {catalog : Catalog} {later : Arena} (consistent : arena.Consistent)
    (edit : Edit catalog arena later) : arena.KeepsUnmarked later := by
  have lasting (id : VertexId) (live : (arena.vertex? id).isSome) : (later.vertex? id).isSome :=
    (Follows.edit edit).vertexLive live
  cases edit with
  | addVertex label known =>
      refine ⟨lasting, ?_, fun _ _ _ => rfl⟩
      intro id live _
      obtain ⟨vertex, found⟩ := Option.isSome_iff_exists.1 live
      have old : id.number ≠ arena.vertices.next := Nat.ne_of_lt (Slots.lt_next found)
      exact (arena.vertices.get?_push _ id.number).trans (if_neg old)
  | attach relation numbered endpoints known =>
      have apart (id : VertexId) (unmarked : (arena.attach relation).isMarked id = false) :
          relation.isIncidentOn id = false := by
        rw [consistent.isMarked_attach endpoints, Bool.or_eq_false_iff] at unmarked
        exact unmarked.2
      refine ⟨lasting, ?_, ?_⟩
      · exact fun id _ unmarked => consistent.vertex?_attach_of_apart (apart id unmarked)
      · exact fun id _ unmarked => around_attach_of_apart (apart id unmarked)
  | release relation live =>
      have apart (id : VertexId) (unmarked : (arena.release relation).isMarked id = false) :
          relation.isIncidentOn id = false := by
        rw [consistent.isMarked_release live, Bool.or_eq_false_iff] at unmarked
        exact unmarked.2
      refine ⟨lasting, ?_, ?_⟩
      · exact fun id _ unmarked => consistent.vertex?_release_of_apart (apart id unmarked)
      · exact fun id _ unmarked => consistent.around_release_of_apart (apart id unmarked) live

/-- Edits keep what is not marked in the end. -/
theorem Edits.keepsUnmarked {catalog : Catalog} {later : Arena} (sound : arena.Sound catalog)
    (edits : Edits catalog arena later) : arena.KeepsUnmarked later := by
  induction edits with
  | refl => exact .refl arena
  | tail before edit ih =>
      exact ih.trans (Edit.keepsUnmarked (sound.edits before).toConsistent edit)

end PropertyGraph.Arena
