import PropertyGraph.Proofs.Catalog.Interning
import PropertyGraph.Proofs.Scope.Effect

/-!
# Arenas without schema ids

Two scopes that use the same names may have got different ids for them.  What
they have in common is what is left when the schema ids are taken away: the
ids of vertices and relations, the names, types and values stay.  An arena
files schema ids and never looks at one, so each of its changes commutes with
taking the ids away; only the properties under a key are found by its id.
-/

namespace PropertyGraph

/-- A change that a filter does not see can be made after filtering. -/
theorem filter_map_of {α β : Type} (change : α → β) {keep : β → Bool} {before : α → Bool}
    (unseen : ∀ item, keep (change item) = before item) (items : List α) :
    (items.map change).filter keep = (items.filter before).map change := by
  rw [List.filter_map]
  congr 1
  exact List.filter_congr fun item _ => unseen item

def Entry.unnumbered (entry : Entry) : Entry := { entry with typeId := .blank }

def Edge.unnumbered (edge : Edge) : Edge := { edge with label := edge.label.unnumbered }

def Property.unnumbered (property : Property) : Property :=
  { property with key := property.key.unnumbered }

namespace Relation

def unnumbered : Relation → Relation
  | edge e => edge e.unnumbered
  | property p => property p.unnumbered

variable (relation : Relation)

@[simp] theorem id_unnumbered : relation.unnumbered.id = relation.id := by
  cases relation <;> rfl

@[simp] theorem endpoints_unnumbered : relation.unnumbered.endpoints = relation.endpoints := by
  cases relation <;> rfl

@[simp] theorem entry_unnumbered : relation.unnumbered.entry = relation.entry.unnumbered := by
  cases relation <;> rfl

@[simp] theorem edge?_unnumbered :
    relation.unnumbered.edge? = relation.edge?.map Edge.unnumbered := by
  cases relation <;> rfl

@[simp] theorem property?_unnumbered :
    relation.unnumbered.property? = relation.property?.map Property.unnumbered := by
  cases relation <;> rfl

section

variable (vertex : VertexId)

@[simp] theorem startsFrom_unnumbered :
    relation.unnumbered.startsFrom vertex = relation.startsFrom vertex := by
  cases relation <;> rfl

@[simp] theorem endsAt_unnumbered :
    relation.unnumbered.endsAt vertex = relation.endsAt vertex := by
  cases relation <;> rfl

@[simp] theorem isOwnedBy_unnumbered :
    relation.unnumbered.isOwnedBy vertex = relation.isOwnedBy vertex := by
  cases relation <;> rfl

end

end Relation

namespace Index

/-- The index with the type ids of its entries taken away. -/
def unnumbered (index : Index) : Index :=
  ⟨index.outgoing.map Entry.unnumbered, index.incoming.map Entry.unnumbered,
    index.properties.map Entry.unnumbered⟩

theorem file_unnumbered (index : Index) (vertex : VertexId) (relation : Relation) :
    index.unnumbered.file vertex [relation.unnumbered] =
      (index.file vertex [relation]).unnumbered := by
  have filed (keep : Relation → Bool) (same : keep relation.unnumbered = keep relation) :
      ([relation.unnumbered].filter keep).map Relation.entry =
        (([relation].filter keep).map Relation.entry).map Entry.unnumbered := by
    cases kept : keep relation <;> simp [same, kept]
  simp only [file, unnumbered, List.map_append]
  rw [filed (·.startsFrom vertex) (by simp), filed (·.endsAt vertex) (by simp),
    filed (·.isOwnedBy vertex) (by simp)]

theorem without_unnumbered (index : Index) (relation : RelationId) :
    index.unnumbered.without relation = (index.without relation).unnumbered := by
  have kept (entries : List Entry) :
      (entries.map Entry.unnumbered).filter (fun entry => entry.relation ≠ relation) =
        (entries.filter fun entry => entry.relation ≠ relation).map Entry.unnumbered :=
    filter_map_of _ (fun _ => rfl) entries
  simp only [without, unnumbered, kept]

end Index

def Vertex.unnumbered (vertex : Vertex) : Vertex :=
  { vertex with label := vertex.label.unnumbered, index := vertex.index.unnumbered }

namespace Arena

/-- The arena with all schema ids taken away. -/
def unnumbered (arena : Arena) : Arena :=
  { arena with
    vertices := arena.vertices.map Vertex.unnumbered
    relations := arena.relations.map Relation.unnumbered }

section

variable (arena : Arena)

@[simp] theorem vertices_next_unnumbered : arena.unnumbered.vertices.next = arena.vertices.next :=
  Slots.next_map arena.vertices _

@[simp] theorem relations_next_unnumbered :
    arena.unnumbered.relations.next = arena.relations.next :=
  Slots.next_map arena.relations _

@[simp] theorem vertex?_unnumbered (id : VertexId) :
    arena.unnumbered.vertex? id = (arena.vertex? id).map Vertex.unnumbered :=
  Slots.get?_map arena.vertices _ id.number

@[simp] theorem relation?_unnumbered (id : RelationId) :
    arena.unnumbered.relation? id = (arena.relation? id).map Relation.unnumbered :=
  Slots.get?_map arena.relations _ id.number

theorem property?_unnumbered (id : RelationId) :
    arena.unnumbered.property? id = (arena.property? id).map Property.unnumbered := by
  rw [property?, property?, relation?_unnumbered]
  cases arena.relation? id with
  | none => rfl
  | some relation => exact relation.property?_unnumbered

theorem relations_live_unnumbered :
    arena.unnumbered.relations.live = arena.relations.live.map Relation.unnumbered :=
  Slots.live_map arena.relations _

theorem liveEdges_unnumbered :
    arena.unnumbered.liveEdges = arena.liveEdges.map Edge.unnumbered := by
  simp only [liveEdges, relations_live_unnumbered, List.filterMap_map, List.map_filterMap]
  apply List.filterMap_congr
  intro relation _
  exact relation.edge?_unnumbered

theorem liveProperties_unnumbered :
    arena.unnumbered.liveProperties = arena.liveProperties.map Property.unnumbered := by
  simp only [liveProperties, relations_live_unnumbered, List.filterMap_map, List.map_filterMap]
  apply List.filterMap_congr
  intro relation _
  exact relation.property?_unnumbered

theorem length_modifiedVertices_unnumbered :
    arena.unnumbered.modifiedVertices.length = arena.modifiedVertices.length := by
  have live : arena.unnumbered.vertices.live = arena.vertices.live.map Vertex.unnumbered :=
    Slots.live_map arena.vertices _
  have marked : arena.unnumbered.modifiedVertices =
      arena.modifiedVertices.map Vertex.unnumbered := by
    rw [modifiedVertices, modifiedVertices, live]
    exact filter_map_of _ (fun _ => rfl) _
  rw [marked, List.length_map]

/-! ## Changes commute with taking the ids away -/

theorem addVertex_unnumbered (label : VertexLabel) :
    arena.unnumbered.addVertex label.unnumbered =
      (arena.addVertex label).map id unnumbered := by
  have pushed := Slots.push_map arena.vertices Vertex.unnumbered
    ⟨⟨arena.vertices.next⟩, label, .empty, false⟩
  simp only [addVertex, vertices_next_unnumbered]
  simp only [unnumbered, Prod.map, id, ← pushed]
  rfl

theorem touch_unnumbered (ids : List VertexId) (change bare : VertexId → Index → Index)
    (agree : ∀ id index, bare id index.unnumbered = (change id index).unnumbered) :
    arena.unnumbered.touch ids bare = (arena.touch ids change).unnumbered := by
  have swapped : Vertex.touch ids bare ∘ Vertex.unnumbered =
      Vertex.unnumbered ∘ Vertex.touch ids change := by
    funext vertex
    by_cases among : vertex.id ∈ ids
    · simp [Vertex.touch, Vertex.unnumbered, among, agree]
    · simp [Vertex.touch, Vertex.unnumbered, among]
  simp only [touch, unnumbered, Slots.map, List.map_map, Option.map_comp_map, swapped]

theorem attach_unnumbered (relation : Relation) :
    arena.unnumbered.attach relation.unnumbered = (arena.attach relation).unnumbered := by
  have touched := arena.touch_unnumbered relation.endpoints
    (fun id index => index.file id [relation])
    (fun id index => index.file id [relation.unnumbered])
    fun id index => index.file_unnumbered id relation
  have pushed := Slots.push_map arena.relations Relation.unnumbered relation
  rw [attach, attach, Relation.endpoints_unnumbered, touched]
  simp only [pushRelation, unnumbered, relations_touch, relationCount_touch, ← pushed]

def connect (arena : Arena) (source : VertexId) (label : EdgeLabel) (target : VertexId) :
    Edge × Arena :=
  let edge : Edge := ⟨⟨arena.relations.next⟩, label, source, target⟩
  (edge, arena.attach (.edge edge))

theorem connect_unnumbered (source : VertexId) (label : EdgeLabel) (target : VertexId) :
    arena.unnumbered.connect source label.unnumbered target =
      (arena.connect source label target).map Edge.unnumbered unnumbered := by
  let edge : Edge := ⟨⟨arena.relations.next⟩, label, source, target⟩
  simp only [connect, relations_next_unnumbered]
  exact congrArg (Prod.mk edge.unnumbered) (arena.attach_unnumbered (.edge edge))

theorem release_unnumbered (relation : Relation) :
    arena.unnumbered.release relation.unnumbered = (arena.release relation).unnumbered := by
  have erased : arena.unnumbered.eraseRelation relation.id =
      (arena.eraseRelation relation.id).unnumbered := by
    simp only [eraseRelation, unnumbered, Slots.erase_map]
  rw [release, release, Relation.endpoints_unnumbered, Relation.id_unnumbered, erased]
  exact touch_unnumbered _ _ _ _ fun _ index => index.without_unnumbered relation.id

theorem unmark_unnumbered : arena.unnumbered.unmark = arena.unmark.unnumbered := by
  simp only [unmark, unnumbered, Slots.map, List.map_map, Option.map_comp_map]
  rfl

theorem withSlotsOf_unnumbered (other : Arena) :
    arena.unnumbered.withSlotsOf other.unnumbered = (arena.withSlotsOf other).unnumbered := by
  simp only [withSlotsOf, vertices_next_unnumbered, relations_next_unnumbered]
  simp only [unnumbered, Slots.resize_map]

/-- The arena without the live ones of the given relations. -/
def releaseAll (arena : Arena) : List RelationId → Arena
  | [] => arena
  | id :: rest =>
    match arena.relation? id with
    | none => arena.releaseAll rest
    | some relation => (arena.release relation).releaseAll rest

theorem releaseAll_unnumbered (ids : List RelationId) :
    arena.unnumbered.releaseAll ids = (arena.releaseAll ids).unnumbered := by
  induction ids generalizing arena with
  | nil => rfl
  | cons id rest ih =>
      simp only [releaseAll, relation?_unnumbered]
      cases arena.relation? id with
      | none => exact ih arena
      | some relation =>
          rw [Option.map_some]
          dsimp only
          rw [release_unnumbered]
          exact ih (arena.release relation)

end

namespace Consistent

variable {arena : Arena}

theorem releaseAll_releases (arena : Arena) (ids : List RelationId) :
    arena.Releases (arena.releaseAll ids) := by
  induction ids generalizing arena with
  | nil => exact .refl
  | cons id rest ih =>
      unfold releaseAll
      split
      next => exact ih arena
      next relation found =>
        exact (ih (arena.release relation)).head
          ⟨relation, mem_live_of_relation? found, rfl⟩

/-- Detaching relations in turn releases those that are live. -/
theorem detachAll_eq_releaseAll (consistent : arena.Consistent) (ids : List RelationId) :
    arena.detachAll ids = .ok (arena.releaseAll ids) := by
  induction ids generalizing arena with
  | nil => rfl
  | cons id rest ih =>
      cases found : arena.relation? id with
      | none => simp only [detachAll, detach_eq_none found, releaseAll, found, ih consistent]
      | some relation =>
          have released := consistent.release (mem_live_of_relation? found)
          simp only [detachAll, consistent.detach_eq_release found, releaseAll, found, ih released]

theorem live_releaseAll (consistent : arena.Consistent) (ids : List RelationId) :
    (arena.releaseAll ids).relations.live =
      arena.relations.live.filter fun relation => relation.id ∉ ids := by
  obtain ⟨cleared, detached, -, live⟩ := consistent.detachAll_eq_ok ids
  rw [consistent.detachAll_eq_releaseAll] at detached
  cases detached
  exact live

end Consistent

end Arena

end PropertyGraph
