import PropertyGraph.Proofs.Scope.Effect

/-!
# Soundness is kept

Opening a scope gives a sound scope.  Every request takes a sound scope and a
sound catalog to a sound scope and a sound catalog that grew out of the first:
edits keep the arena sound and let it follow the last commit, committing makes
the arena its own base, and rolling back takes the base with the slots of the
discarded arena.
-/

namespace PropertyGraph

namespace Arena

@[simp] theorem unmark_unmark (arena : Arena) : arena.unmark.unmark = arena.unmark := by
  simp only [unmark, Slots.map, List.map_map, Option.map_comp_map]
  rfl

@[simp] theorem vertex?_unmark (arena : Arena) (id : VertexId) :
    arena.unmark.vertex? id =
      (arena.vertex? id).map fun vertex => { vertex with modified := false } :=
  Slots.get?_map arena.vertices _ id.number

/-- No vertex is marked after the marks were cleared. -/
theorem modified_unmark {arena : Arena} {id : VertexId} {vertex : Vertex}
    (found : arena.unmark.vertex? id = some vertex) : vertex.modified = false := by
  rw [vertex?_unmark] at found
  obtain ⟨before, -, rfl⟩ := Option.map_eq_some_iff.1 found
  rfl

theorem unmark_withSlotsOf (arena other : Arena) :
    (arena.withSlotsOf other).unmark = arena.unmark.withSlotsOf other := by
  simp only [unmark, withSlotsOf, Slots.resize_map]

/-- Filling up an earlier arena leaves everything under the old numbers. -/
theorem Follows.withSlotsOf {later earlier : Arena} (follows : later.Follows earlier) :
    (earlier.withSlotsOf later).Follows earlier where
  vertices_next := by
    rw [Arena.withSlotsOf, Slots.next_resize]
    exact follows.vertices_next
  relations_next := by
    rw [Arena.withSlotsOf, Slots.next_resize]
    exact follows.relations_next
  vertices number _ := by rw [Arena.withSlotsOf, Slots.get?_resize _ follows.vertices_next]
  relations number _ relation found := by
    rwa [Arena.withSlotsOf, Slots.get?_resize _ follows.relations_next] at found

end Arena

namespace Scope

variable {scope : Scope} {catalog : Catalog}

namespace Sound

theorem grow {grown : Catalog} (grows : catalog.Grows grown) (sound : scope.Sound catalog) :
    scope.Sound grown :=
  ⟨sound.arena.grow grows, sound.base.grow grows, sound.base_unmarked, sound.follows,
    grows.vertexLabels.mem sound.defaultLabel_known⟩

/-- Edits of the arena keep a scope sound. -/
theorem edits (sound : scope.Sound catalog) {arena : Arena}
    (edits : Arena.Edits catalog scope.arena arena) :
    Sound { scope with arena := arena } catalog :=
  ⟨sound.arena.edits edits, sound.base, sound.base_unmarked,
    (Arena.Follows.edits edits).trans sound.follows, sound.defaultLabel_known⟩

theorem commit (sound : scope.Sound catalog) : scope.commit.2.Sound catalog :=
  ⟨sound.arena.unmark, sound.arena.unmark, scope.arena.unmark_unmark, .refl _,
    sound.defaultLabel_known⟩

/-- Rolling back takes the base with the slots of the discarded arena. -/
theorem rollback_eq (sound : scope.Sound catalog) :
    scope.rollback.2 = { scope with arena := scope.base.withSlotsOf scope.arena } := by
  have restored : (scope.base.withSlotsOf scope.arena).unmark =
      scope.base.withSlotsOf scope.arena := by
    rw [Arena.unmark_withSlotsOf, sound.base_unmarked]
  exact congrArg (fun arena => { scope with arena := arena }) restored

theorem rollback (sound : scope.Sound catalog) : scope.rollback.2.Sound catalog := by
  rw [sound.rollback_eq]
  exact ⟨sound.base.withSlotsOf sound.follows, sound.base, sound.base_unmarked,
    sound.follows.withSlotsOf, sound.defaultLabel_known⟩

/-- A scope is sound when it is opened. -/
theorem start (catalogSound : catalog.Sound) {config : Config} {grown : Catalog}
    (started : Scope.start config catalog = .ok (scope, grown)) :
    catalog.Leads grown ∧ scope.Sound grown := by
  obtain ⟨⟨label, after⟩, resolved, same⟩ := map_eq_ok_iff.1 started
  cases same
  obtain ⟨leads, known⟩ := catalogSound.vertexLabel resolved
  exact ⟨leads, .fresh _, .fresh _, rfl, .refl _, known⟩

end Sound

namespace Effect

variable {request : Request} {outcome : Outcome Answer}

theorem leads (effect : Effect scope catalog request outcome) (catalogSound : catalog.Sound) :
    catalog.Leads outcome.catalog := by
  cases effect with
  | refuse leads => exact leads
  | addVertex leads => exact leads
  | addEdge leads => exact leads
  | addProperty leads => exact leads
  | findProperty leads => exact leads
  | removeRelation => exact catalogSound.leads_refl
  | commit => exact catalogSound.leads_refl
  | rollback => exact catalogSound.leads_refl

/-- A request edits the arena, or it is a teardown. -/
theorem edits_or_teardown (effect : Effect scope catalog request outcome) :
    (∃ arena, outcome.scope = { scope with arena := arena } ∧
        Arena.Edits outcome.catalog scope.arena arena) ∨
      request = .commit ∧ outcome.scope = scope.commit.2 ∨
      request = .rollback ∧ outcome.scope = scope.rollback.2 := by
  cases effect with
  | refuse leads error => exact .inl ⟨scope.arena, rfl, .refl⟩
  | addVertex leads label known => exact .inl ⟨_, rfl, .single (.addVertex label known)⟩
  | addEdge leads edge known numbered live =>
      exact .inl ⟨_, rfl, .single (.attach (.edge edge) numbered live known)⟩
  | @addProperty _ _ leads property known numbered live cleared releases =>
      have owned : ∀ id ∈ (Relation.property property).endpoints,
          (cleared.vertex? id).isSome := by
        intro id endpoint
        rw [List.mem_singleton.1 endpoint, releases.vertexLive]
        exact live
      exact .inl ⟨_, rfl, (releases.edits _).tail
        (.attach _ (numbered.trans releases.relations_next.symm) owned known)⟩
  | findProperty leads property live set => exact .inl ⟨scope.arena, rfl, .refl⟩
  | removeRelation relation live => exact .inl ⟨_, rfl, .single (.release relation live)⟩
  | commit => exact .inr (.inl ⟨rfl, rfl⟩)
  | rollback => exact .inr (.inr ⟨rfl, rfl⟩)

end Effect

namespace Sound

/-- Whatever is asked of a sound scope over a sound catalog, both are sound afterwards. -/
theorem serve (sound : scope.Sound catalog) (catalogSound : catalog.Sound) (request : Request) :
    catalog.Leads (scope.serve catalog request).catalog ∧
      (scope.serve catalog request).scope.Sound (scope.serve catalog request).catalog := by
  have effect := sound.serve_effect catalogSound request
  have leads := effect.leads catalogSound
  refine ⟨leads, ?_⟩
  have grown := sound.grow leads.grows
  rcases effect.edits_or_teardown with ⟨arena, same, edited⟩ | ⟨-, same⟩ | ⟨-, same⟩
  · rw [same]
    exact grown.edits edited
  · rw [same]
    exact grown.commit
  · rw [same]
    exact grown.rollback

end Sound

end Scope

end PropertyGraph
