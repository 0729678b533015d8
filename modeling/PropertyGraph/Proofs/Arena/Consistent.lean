import PropertyGraph.Proofs.Incidence.Filing
import PropertyGraph.Proofs.Slots
import PropertyGraph.Scope.Arena

/-!
# Consistent arenas

An arena is consistent if every vertex has exactly the index that the list of
live relations gives it, every relation has live endpoints, everything carries
the number of its slot, and the counters count.  On a consistent arena the
changes that could break a promise cannot: attaching and detaching a relation
succeed, and they are the plain changes `attach` and `release`, which keep the
arena consistent.
-/

namespace PropertyGraph

theorem RelationId.number_inj {first second : RelationId} :
    first.number = second.number ↔ first = second := by
  cases first
  cases second
  simp

theorem VertexId.number_inj {first second : VertexId} :
    first.number = second.number ↔ first = second := by
  cases first
  cases second
  simp

/-- The vertex with its index changed and marked as modified, if it is one of the given ones. -/
def Vertex.touch (ids : List VertexId) (change : VertexId → Index → Index) (vertex : Vertex) :
    Vertex :=
  if vertex.id ∈ ids then
    { vertex with index := change vertex.id vertex.index, modified := true }
  else vertex

@[simp] theorem Vertex.touch_id (ids : List VertexId) (change : VertexId → Index → Index)
    (vertex : Vertex) : (vertex.touch ids change).id = vertex.id := by
  unfold touch
  split <;> rfl

@[simp] theorem Vertex.touch_label (ids : List VertexId) (change : VertexId → Index → Index)
    (vertex : Vertex) : (vertex.touch ids change).label = vertex.label := by
  unfold touch
  split <;> rfl

namespace Arena

def liveEdges (arena : Arena) : List Edge := arena.relations.live.filterMap Relation.edge?

def liveProperties (arena : Arena) : List Property :=
  arena.relations.live.filterMap Relation.property?

theorem mem_liveEdges {arena : Arena} {edge : Edge} :
    edge ∈ arena.liveEdges ↔ .edge edge ∈ arena.relations.live := by
  constructor
  · intro listed
    obtain ⟨relation, live, same⟩ := List.mem_filterMap.1 listed
    rwa [← Relation.edge?_eq_some_iff.1 same]
  · exact fun live => List.mem_filterMap.2 ⟨_, live, rfl⟩

theorem mem_liveProperties {arena : Arena} {property : Property} :
    property ∈ arena.liveProperties ↔ .property property ∈ arena.relations.live := by
  constructor
  · intro listed
    obtain ⟨relation, live, same⟩ := List.mem_filterMap.1 listed
    rwa [← Relation.property?_eq_some_iff.1 same]
  · exact fun live => List.mem_filterMap.2 ⟨_, live, rfl⟩

/-- Change the indexes of the given vertices and mark these as modified. -/
def touch (arena : Arena) (ids : List VertexId) (change : VertexId → Index → Index) : Arena :=
  { arena with vertices := arena.vertices.map (Vertex.touch ids change) }

/-- Add a relation and file it at every endpoint. -/
def attach (arena : Arena) (relation : Relation) : Arena :=
  (arena.touch relation.endpoints fun vertex index => index.file vertex [relation]).pushRelation
    relation

def eraseRelation (arena : Arena) (id : RelationId) : Arena :=
  { arena with
    relations := arena.relations.erase id.number
    relationCount := arena.relationCount - 1 }

/-- Take a relation out of its slot and drop its entries at every endpoint. -/
def release (arena : Arena) (relation : Relation) : Arena :=
  (arena.eraseRelation relation.id).touch relation.endpoints fun _ index =>
    index.without relation.id

/-- Indexes, endpoints, numbers and counters agree with the live vertices and relations. -/
structure Consistent (arena : Arena) : Prop where
  vertices_numbered : arena.vertices.Numbered fun vertex => vertex.id.number
  relations_numbered : arena.relations.Numbered fun relation => relation.id.number
  vertices_begun : arena.vertices.Begun
  relations_begun : arena.relations.Begun
  indexed : ∀ vertex ∈ arena.vertices.live,
    vertex.index = .ofRelations vertex.id arena.relations.live
  endpoints_live : ∀ relation ∈ arena.relations.live, ∀ id ∈ relation.endpoints,
    (arena.vertex? id).isSome
  vertices_counted : arena.vertexCount = arena.vertices.live.length
  relations_counted : arena.relationCount = arena.relations.live.length

section

variable (arena : Arena) (ids : List VertexId) (change : VertexId → Index → Index)

@[simp] theorem relations_touch : (arena.touch ids change).relations = arena.relations := rfl

@[simp] theorem relationCount_touch :
    (arena.touch ids change).relationCount = arena.relationCount := rfl

@[simp] theorem vertexCount_touch : (arena.touch ids change).vertexCount = arena.vertexCount := rfl

@[simp] theorem vertices_touch :
    (arena.touch ids change).vertices = arena.vertices.map (Vertex.touch ids change) := rfl

@[simp] theorem vertex?_touch (id : VertexId) :
    (arena.touch ids change).vertex? id = (arena.vertex? id).map (Vertex.touch ids change) :=
  Slots.get?_map arena.vertices _ id.number

@[simp] theorem touch_nil : arena.touch [] change = arena := by
  have unchanged : Vertex.touch [] change = id := by
    funext vertex
    simp [Vertex.touch]
  simp [touch, Slots.map, unchanged]

end

section

variable {arena : Arena} {id : VertexId} {vertex : Vertex}

/-- A vertex is found under its own id. -/
theorem id_of_vertex? (numbered : arena.vertices.Numbered fun vertex => vertex.id.number)
    (found : arena.vertex? id = some vertex) : vertex.id = id :=
  VertexId.number_inj.1 (numbered id.number vertex found)

/-- A change of the index of a live vertex touches this vertex only. -/
theorem changeIndex_eq_touch (numbered : arena.vertices.Numbered fun vertex => vertex.id.number)
    (found : arena.vertex? id = some vertex) {change : Index → Except Violation Index}
    (plain : VertexId → Index → Index)
    (changed : change vertex.index = .ok (plain id vertex.index)) :
    arena.changeIndex id change = .ok (arena.touch [id] plain) := by
  have same := id_of_vertex? numbered found
  have replaced := numbered.set_eq_map found fun other =>
    { other with index := plain id other.index, modified := true }
  have touched : (fun other : Vertex =>
      if other.id.number = id.number then
        { other with index := plain id other.index, modified := true }
      else other) = Vertex.touch [id] plain := by
    funext other
    rw [Vertex.touch]
    by_cases here : other.id = id
    · simp [here]
    · simp [here, VertexId.number_inj]
  simp only [changeIndex, found, changed]
  rw [touched] at replaced
  rw [touch, ← replaced]

end

/-- A relation that is attached under the next number is found. -/
theorem relation?_attach {arena : Arena} {relation : Relation}
    (numbered : relation.id.number = arena.relations.next) :
    (arena.attach relation).relation? relation.id = some relation := by
  change (arena.relations.push relation).get? relation.id.number = some relation
  rw [Slots.get?_push, if_pos numbered]

/-- Touching vertices in turn is touching all of them, if none comes twice. -/
theorem touch_touch (arena : Arena) {id : VertexId} {rest : List VertexId}
    (change : VertexId → Index → Index) (apart : id ∉ rest) :
    (arena.touch [id] change).touch rest change = arena.touch (id :: rest) change := by
  have composed : Vertex.touch rest change ∘ Vertex.touch [id] change =
      Vertex.touch (id :: rest) change := by
    funext vertex
    by_cases here : vertex.id = id
    · simp [Vertex.touch, here, apart]
    · simp [Vertex.touch, here]
  simp only [touch, Slots.map, List.map_map, Option.map_comp_map, composed]

/-- Touching a vertex twice is touching it once with both changes. -/
theorem touch_touch_self (arena : Arena) (id : VertexId)
    (first second : VertexId → Index → Index) :
    (arena.touch [id] first).touch [id] second =
      arena.touch [id] fun vertex index => second vertex (first vertex index) := by
  have composed : Vertex.touch [id] second ∘ Vertex.touch [id] first =
      Vertex.touch [id] fun vertex index => second vertex (first vertex index) := by
    funext vertex
    by_cases here : vertex.id = id <;> simp [Vertex.touch, here]
  simp only [touch, Slots.map, List.map_map, Option.map_comp_map, composed]

/-- Only what is done to the touched vertices matters. -/
theorem touch_congr (arena : Arena) {ids : List VertexId}
    {first second : VertexId → Index → Index} (agree : ∀ id ∈ ids, first id = second id) :
    arena.touch ids first = arena.touch ids second := by
  have same : Vertex.touch ids first = Vertex.touch ids second := by
    funext vertex
    by_cases here : vertex.id ∈ ids
    · simp [Vertex.touch, here, agree vertex.id here]
    · simp [Vertex.touch, here]
  rw [touch, touch, same]

namespace Consistent

variable {arena : Arena}

theorem fresh : Arena.fresh.Consistent where
  vertices_numbered := .fresh
  relations_numbered := .fresh
  vertices_begun := .fresh
  relations_begun := .fresh
  indexed := by simp [Arena.fresh]
  endpoints_live := by simp [Arena.fresh]
  vertices_counted := rfl
  relations_counted := rfl

theorem mem_live_of_vertex? {id : VertexId} {vertex : Vertex}
    (found : arena.vertex? id = some vertex) : vertex ∈ arena.vertices.live :=
  Slots.mem_live.2 ⟨id.number, found⟩

theorem mem_live_of_relation? {id : RelationId} {relation : Relation}
    (found : arena.relation? id = some relation) : relation ∈ arena.relations.live :=
  Slots.mem_live.2 ⟨id.number, found⟩

theorem id_of_relation? (consistent : arena.Consistent) {id : RelationId} {relation : Relation}
    (found : arena.relation? id = some relation) : relation.id = id :=
  RelationId.number_inj.1 (consistent.relations_numbered id.number relation found)

theorem mem_live_iff (consistent : arena.Consistent) {relation : Relation} :
    relation ∈ arena.relations.live ↔ arena.relation? relation.id = some relation :=
  consistent.relations_numbered.mem_live_iff

/-- Live relations of one id are one relation. -/
theorem eq_of_id (consistent : arena.Consistent) {first second : Relation}
    (firstLive : first ∈ arena.relations.live) (secondLive : second ∈ arena.relations.live)
    (same : first.id = second.id) : first = second :=
  consistent.relations_numbered.eq_of_number firstLive secondLive (RelationId.number_inj.2 same)

/-- A live vertex is indexed under the id it is asked for. -/
theorem index_eq (consistent : arena.Consistent) {id : VertexId} {vertex : Vertex}
    (found : arena.vertex? id = some vertex) :
    vertex.index = .ofRelations id arena.relations.live := by
  rw [← id_of_vertex? consistent.vertices_numbered found]
  exact consistent.indexed vertex (mem_live_of_vertex? found)

/-- A relation belongs to live vertices only. -/
theorem isIncidentOn_eq_false (consistent : arena.Consistent) {id : VertexId}
    (missing : arena.vertex? id = none) {relation : Relation}
    (live : relation ∈ arena.relations.live) : relation.isIncidentOn id = false := by
  cases incident : relation.isIncidentOn id with
  | false => rfl
  | true =>
      have present := consistent.endpoints_live relation live id
        ((relation.mem_endpoints_iff id).2 incident)
      rw [missing] at present
      cases present

theorem mem_liveEdges_iff (consistent : arena.Consistent) {edge : Edge} :
    edge ∈ arena.liveEdges ↔ arena.relation? edge.id = some (.edge edge) := by
  rw [← Relation.id.eq_1, ← consistent.mem_live_iff]
  exact mem_liveEdges

theorem mem_liveProperties_iff (consistent : arena.Consistent) {property : Property} :
    property ∈ arena.liveProperties ↔
      arena.relation? property.id = some (.property property) := by
  rw [← Relation.id.eq_2, ← consistent.mem_live_iff]
  exact mem_liveProperties

/-- The live edges ascend. -/
theorem liveEdges_ascending (consistent : arena.Consistent) :
    arena.liveEdges.Pairwise fun first second => first.id.number < second.id.number := by
  rw [liveEdges, List.pairwise_filterMap]
  apply consistent.relations_numbered.live_ascending.imp
  intro first second below edge foundFirst other foundSecond
  rw [Relation.edge?_eq_some_iff] at foundFirst foundSecond
  subst foundFirst foundSecond
  exact below

/-- The live properties ascend. -/
theorem liveProperties_ascending (consistent : arena.Consistent) :
    arena.liveProperties.Pairwise fun first second => first.id.number < second.id.number := by
  rw [liveProperties, List.pairwise_filterMap]
  apply consistent.relations_numbered.live_ascending.imp
  intro first second below property foundFirst other foundSecond
  rw [Relation.property?_eq_some_iff] at foundFirst foundSecond
  subst foundFirst foundSecond
  exact below

end Consistent

end Arena

end PropertyGraph
