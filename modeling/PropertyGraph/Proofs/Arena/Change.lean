import PropertyGraph.Proofs.Arena.Consistent

/-!
# The changes of a consistent arena

Adding a vertex, attaching a relation, releasing one, clearing the marks and
filling up with empty slots keep an arena consistent.  On a consistent arena
the operations that report a broken promise never do: they are equal to these
changes.
-/

namespace PropertyGraph.Arena.Consistent

variable {arena : Arena}

theorem vertexLive_touch (ids : List VertexId) (change : VertexId → Index → Index)
    (id : VertexId) :
    ((arena.touch ids change).vertex? id).isSome = (arena.vertex? id).isSome := by
  simp

/-! ## Consistency is kept -/

theorem addVertex (consistent : arena.Consistent) (label : VertexLabel) :
    (arena.addVertex label).2.Consistent := by
  have unknown : arena.vertex? ⟨arena.vertices.next⟩ = none := arena.vertices.get?_next
  refine ⟨consistent.vertices_numbered.push rfl, consistent.relations_numbered,
    consistent.vertices_begun.push _, consistent.relations_begun, ?_, ?_, ?_,
    consistent.relations_counted⟩
  · intro vertex live
    simp only [Arena.addVertex, Slots.live_push, List.mem_append, List.mem_singleton] at live
    rcases live with old | rfl
    · exact consistent.indexed vertex old
    · exact (Index.file_eq_self .empty fun relation live =>
        consistent.isIncidentOn_eq_false unknown live).symm
  · intro relation live id endpoint
    have before := consistent.endpoints_live relation live id endpoint
    change ((arena.vertices.push _).get? id.number).isSome = true
    rw [Slots.get?_push]
    split
    · rfl
    · exact before
  · simp [Arena.addVertex, consistent.vertices_counted]

theorem attach (consistent : arena.Consistent) {relation : Relation}
    (numbered : relation.id.number = arena.relations.next)
    (live : ∀ id ∈ relation.endpoints, (arena.vertex? id).isSome) :
    (arena.attach relation).Consistent := by
  refine ⟨consistent.vertices_numbered.map (by simp), consistent.relations_numbered.push numbered,
    consistent.vertices_begun.map _, consistent.relations_begun.push _, ?_, ?_, ?_, ?_⟩
  · intro vertex member
    simp only [Arena.attach, pushRelation, vertices_touch, Slots.live_map, List.mem_map] at member
    obtain ⟨before, beforeLive, rfl⟩ := member
    have indexed := consistent.indexed before beforeLive
    simp only [Arena.attach, pushRelation, relations_touch, Slots.live_push, Vertex.touch_id,
      Index.ofRelations_append]
    rw [Vertex.touch]
    split
    next => rw [indexed]
    next apart =>
      rw [Index.file_eq_self, indexed]
      intro other member
      rw [List.mem_singleton.1 member, ← Bool.not_eq_true, ← Relation.mem_endpoints_iff]
      exact apart
  · intro other member id endpoint
    change ((arena.touch _ _).vertex? id).isSome = true
    rw [vertexLive_touch]
    simp only [Arena.attach, pushRelation, relations_touch, Slots.live_push, List.mem_append,
      List.mem_singleton] at member
    rcases member with old | rfl
    · exact consistent.endpoints_live other old id endpoint
    · exact live id endpoint
  · simpa [Arena.attach, pushRelation] using consistent.vertices_counted
  · simp [Arena.attach, pushRelation, consistent.relations_counted]

/-- Releasing a relation leaves the other live relations in their order. -/
theorem live_release (consistent : arena.Consistent) (relation : Relation) :
    (arena.release relation).relations.live =
      arena.relations.live.filter fun other => other.id ≠ relation.id := by
  have erased := consistent.relations_numbered.live_erase relation.id.number
  simp only [ne_eq, RelationId.number_inj] at erased
  exact erased

theorem release (consistent : arena.Consistent) {relation : Relation}
    (live : relation ∈ arena.relations.live) : (arena.release relation).Consistent := by
  refine ⟨consistent.vertices_numbered.map (by simp), consistent.relations_numbered.erase _,
    consistent.vertices_begun.map _, consistent.relations_begun.erase _, ?_, ?_, ?_, ?_⟩
  · intro vertex member
    rw [consistent.live_release]
    simp only [Arena.release, eraseRelation, vertices_touch, Slots.live_map,
      List.mem_map] at member
    obtain ⟨before, beforeLive, rfl⟩ := member
    have indexed := consistent.indexed before beforeLive
    rw [Vertex.touch_id, ← Index.ofRelations_without, ← indexed, Vertex.touch]
    split
    next => rfl
    next apart =>
      rw [indexed, Index.without_eq_self]
      rw [← Bool.not_eq_true, Index.contains_ofRelations]
      rintro ⟨other, otherLive, incident, same⟩
      rw [consistent.eq_of_id otherLive live same] at incident
      exact apart ((relation.mem_endpoints_iff before.id).2 incident)
  · intro other member id endpoint
    rw [consistent.live_release] at member
    change (((arena.eraseRelation relation.id).touch _ _).vertex? id).isSome = true
    rw [vertexLive_touch]
    exact consistent.endpoints_live other (List.mem_of_mem_filter member) id endpoint
  · simpa [Arena.release, eraseRelation] using consistent.vertices_counted
  · have fewer : (arena.release relation).relations.live.length + 1 =
        arena.relations.live.length :=
      Slots.length_live_erase (consistent.mem_live_iff.1 live)
    change arena.relationCount - 1 = _
    rw [consistent.relations_counted]
    omega

theorem unmark (consistent : arena.Consistent) : arena.unmark.Consistent := by
  refine ⟨consistent.vertices_numbered.map fun _ => rfl, consistent.relations_numbered,
    consistent.vertices_begun.map _, consistent.relations_begun, ?_, ?_, ?_,
    consistent.relations_counted⟩
  · intro vertex member
    simp only [Arena.unmark, Slots.live_map, List.mem_map] at member
    obtain ⟨before, beforeLive, rfl⟩ := member
    exact consistent.indexed before beforeLive
  · intro relation live id endpoint
    change ((arena.vertices.map _).get? id.number).isSome = true
    rw [Slots.get?_map, Option.isSome_map]
    exact consistent.endpoints_live relation live id endpoint
  · simpa [Arena.unmark] using consistent.vertices_counted

/-- Filling up with empty slots keeps everything that is found. -/
theorem withSlotsOf (consistent : arena.Consistent) {other : Arena}
    (moreVertices : arena.vertices.next ≤ other.vertices.next)
    (moreRelations : arena.relations.next ≤ other.relations.next) :
    (arena.withSlotsOf other).Consistent := by
  have vertices := Slots.live_resize arena.vertices moreVertices
  have relations := Slots.live_resize arena.relations moreRelations
  refine ⟨consistent.vertices_numbered.resize moreVertices,
    consistent.relations_numbered.resize moreRelations,
    consistent.vertices_begun.resize moreVertices,
    consistent.relations_begun.resize moreRelations, ?_, ?_, ?_, ?_⟩
  · intro vertex member
    simp only [Arena.withSlotsOf, vertices, relations] at member ⊢
    exact consistent.indexed vertex member
  · intro relation live id endpoint
    simp only [Arena.withSlotsOf, relations] at live
    change ((arena.vertices.resize _).get? id.number).isSome = true
    rw [Slots.get?_resize _ moreVertices]
    exact consistent.endpoints_live relation live id endpoint
  · simpa [Arena.withSlotsOf, vertices] using consistent.vertices_counted
  · simpa [Arena.withSlotsOf, relations] using consistent.relations_counted

/-! ## No promise is broken -/

/-- Filing at live vertices that differ is touching them. -/
theorem unfile_eq_touch (numbered : arena.vertices.Numbered fun vertex => vertex.id.number)
    {relation : RelationId} {ids : List VertexId} (nodup : ids.Nodup)
    (filed : ∀ id ∈ ids, ∃ vertex, arena.vertex? id = some vertex ∧
      vertex.index.contains relation = true) :
    arena.unfile relation ids = .ok (arena.touch ids fun _ index => index.without relation) := by
  induction ids generalizing arena with
  | nil => simp [unfile]
  | cons id rest ih =>
      obtain ⟨apart, restNodup⟩ := List.nodup_cons.1 nodup
      obtain ⟨vertex, found, contained⟩ := filed id List.mem_cons_self
      have dropped : dropEntries relation id vertex.index =
          .ok (vertex.index.without relation) := by
        simp only [dropEntries]
        rw [if_neg (Index.remove_ne_zero contained)]
        rfl
      have changed := changeIndex_eq_touch numbered found (fun _ index => index.without relation)
        dropped
      have restFiled : ∀ other ∈ rest, ∃ vertex,
          (arena.touch [id] fun _ index => index.without relation).vertex? other = some vertex ∧
            vertex.index.contains relation = true := by
        intro other member
        obtain ⟨untouched, otherFound, otherContained⟩ :=
          filed other (List.mem_cons_of_mem _ member)
        have different : untouched.id ∉ [id] := by
          rw [id_of_vertex? numbered otherFound, List.mem_singleton]
          rintro rfl
          exact apart member
        refine ⟨untouched, ?_, otherContained⟩
        rw [vertex?_touch, otherFound, Option.map_some, Vertex.touch, if_neg different]
      have tail := ih (numbered.map (by simp)) restNodup restFiled
      simp only [unfile, changed, tail, touch_touch _ _ apart]

theorem detach_eq_none {id : RelationId} (missing : arena.relation? id = none) :
    arena.detach id = .ok none := by
  simp only [detach, missing]

/-- Detaching a live relation releases it. -/
theorem detach_eq_release (consistent : arena.Consistent) {id : RelationId} {relation : Relation}
    (found : arena.relation? id = some relation) :
    arena.detach id = .ok (some (relation, arena.release relation)) := by
  have same := consistent.id_of_relation? found
  subst same
  have live := mem_live_of_relation? found
  have filed : ∀ id ∈ relation.endpoints, ∃ vertex,
      (arena.eraseRelation relation.id).vertex? id = some vertex ∧
        vertex.index.contains relation.id = true := by
    intro id endpoint
    obtain ⟨vertex, vertexFound⟩ :=
      Option.isSome_iff_exists.1 (consistent.endpoints_live relation live id endpoint)
    refine ⟨vertex, vertexFound, ?_⟩
    rw [consistent.index_eq vertexFound, Index.contains_ofRelations]
    exact ⟨relation, live, (relation.mem_endpoints_iff id).1 endpoint, rfl⟩
  have numbered : (arena.eraseRelation relation.id).vertices.Numbered fun vertex =>
      vertex.id.number := consistent.vertices_numbered
  have unfiled := unfile_eq_touch numbered relation.endpoints_nodup filed
  simp only [eraseRelation] at unfiled
  simp only [detach, found, unfiled]
  rfl

/-- Filing an edge on both sides is filing it as a relation. -/
theorem touch_sides (arena : Arena) (e : Edge) :
    (arena.touch [e.source] fun _ index =>
        { index with outgoing := index.outgoing ++ [⟨e.id, e.label.id, e.isLoop⟩] }).touch
      [e.target] (fun _ index =>
        { index with incoming := index.incoming ++ [⟨e.id, e.label.id, e.isLoop⟩] }) =
      arena.touch (Relation.edge e).endpoints fun vertex index =>
        index.file vertex [.edge e] := by
  by_cases loop : e.source = e.target
  · have endpoints : (Relation.edge e).endpoints = [e.target] := by
      simp [Relation.endpoints, Edge.isLoop, loop]
    rw [endpoints, loop, touch_touch_self]
    apply touch_congr
    intro vertex member
    rw [List.mem_singleton.1 member]
    funext index
    simp [Index.file_edge, loop]
  · have endpoints : (Relation.edge e).endpoints = [e.source, e.target] := by
      simp [Relation.endpoints, Edge.isLoop, loop]
    have apart : e.source ∉ [e.target] := by simpa using loop
    rw [endpoints, ← touch_touch _ _ apart]
    have outgoing : (arena.touch [e.source] fun _ index =>
        { index with outgoing := index.outgoing ++ [⟨e.id, e.label.id, e.isLoop⟩] }) =
        arena.touch [e.source] fun vertex index => index.file vertex [.edge e] := by
      apply touch_congr
      intro vertex member
      rw [List.mem_singleton.1 member]
      funext index
      simp [Index.file_edge, Ne.symm loop]
    rw [outgoing]
    apply touch_congr
    intro vertex member
    rw [List.mem_singleton.1 member]
    funext index
    simp [Index.file_edge, loop]

/-- Adding an edge between live vertices attaches it. -/
theorem attachEdge_eq_attach (consistent : arena.Consistent) {source target : VertexId}
    (sourceLive : (arena.vertex? source).isSome) (targetLive : (arena.vertex? target).isSome)
    (label : EdgeLabel) :
    arena.attachEdge source label target =
      .ok (⟨⟨arena.relations.next⟩, label, source, target⟩,
        arena.attach (.edge ⟨⟨arena.relations.next⟩, label, source, target⟩)) := by
  let edge : Edge := ⟨⟨arena.relations.next⟩, label, source, target⟩
  let out (_ : VertexId) (index : Index) : Index :=
    { index with outgoing := index.outgoing ++ [⟨edge.id, label.id, edge.isLoop⟩] }
  let into (_ : VertexId) (index : Index) : Index :=
    { index with incoming := index.incoming ++ [⟨edge.id, label.id, edge.isLoop⟩] }
  obtain ⟨sourceVertex, sourceFound⟩ := Option.isSome_iff_exists.1 sourceLive
  have filed : arena.changeIndex source (·.insertEdge .outgoing ⟨edge.id, label.id, edge.isLoop⟩) =
      .ok (arena.touch [source] out) :=
    changeIndex_eq_touch consistent.vertices_numbered sourceFound out rfl
  have targetStill : ((arena.touch [source] out).vertex? target).isSome := by
    rw [vertexLive_touch]
    exact targetLive
  obtain ⟨targetVertex, targetFound⟩ := Option.isSome_iff_exists.1 targetStill
  have filedTwice : (arena.touch [source] out).changeIndex target
        (·.insertEdge .incoming ⟨edge.id, label.id, edge.isLoop⟩) =
      .ok ((arena.touch [source] out).touch [target] into) :=
    changeIndex_eq_touch (consistent.vertices_numbered.map (by simp)) targetFound into rfl
  simp only [attachEdge]
  rw [filed]
  dsimp only
  rw [filedTwice]
  dsimp only
  rw [touch_sides arena edge]
  rfl

/-- Adding a property to a live vertex attaches it. -/
theorem attachProperty_eq_attach (consistent : arena.Consistent) {owner : VertexId}
    (live : (arena.vertex? owner).isSome) (key : PropertyKey) (value : Value) :
    arena.attachProperty owner key value =
      .ok (⟨⟨arena.relations.next⟩, key, owner, value⟩,
        arena.attach (.property ⟨⟨arena.relations.next⟩, key, owner, value⟩)) := by
  let property : Property := ⟨⟨arena.relations.next⟩, key, owner, value⟩
  obtain ⟨vertex, found⟩ := Option.isSome_iff_exists.1 live
  have filed : arena.changeIndex owner (·.insertProperty ⟨property.id, key.id, false⟩) =
      .ok (arena.touch [owner] fun vertex index => index.file vertex [.property property]) := by
    apply changeIndex_eq_touch consistent.vertices_numbered found
      fun vertex index => index.file vertex [.property property]
    exact congrArg Except.ok (Index.file_property vertex.index property).symm
  simp only [attachProperty]
  rw [filed]
  rfl

end PropertyGraph.Arena.Consistent
