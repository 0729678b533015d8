import PropertyGraph.Proofs.Arena.Entries
import PropertyGraph.Proofs.Query.Scan
import PropertyGraph.Proofs.Workspace.Run
import PropertyGraph.Scope.Reading

/-!
# No broken promise is reachable

Operations, queries and handles report a violation when an index and the
relations disagree, or when a vertex that was there is gone.  In a reachable
workspace none of them does, since the arena in use and the committed one are
both indexed exactly.
-/

namespace PropertyGraph

/-- Every terminal of the query has an answer; the number of edges always has one. -/
structure Query.Answers (query : Query) (scope : Scope) (catalog : Catalog) : Prop where
  edges : ∃ answer, query.edges scope catalog = .ok answer
  properties : ∃ answer, query.properties scope catalog = .ok answer
  relations : ∃ answer, query.relations scope catalog = .ok answer
  vertices : ∃ answer, query.vertices scope catalog = .ok answer
  count : ∃ answer, query.count scope catalog = .ok answer
  propertyCount : ∃ answer, query.propertyCount scope catalog = .ok answer

theorem Query.Scans.answers {query : Query} {scope : Scope} {catalog : Catalog}
    (scans : query.Scans scope catalog) : query.Answers scope catalog :=
  ⟨⟨_, scans.edges⟩, ⟨_, scans.properties⟩, ⟨_, scans.relations⟩, ⟨_, scans.vertices⟩,
    ⟨_, scans.count⟩, ⟨_, scans.propertyCount⟩⟩

namespace Scope

variable {scope : Scope} {catalog : Catalog}

/-- What has an effect does not end with a violation. -/
theorem Effect.result_ne_violation {request : Request} {outcome : Outcome Answer}
    (effect : Effect scope catalog request outcome) (breach : Violation) :
    outcome.result ≠ .error (.violation breach) := by
  cases effect <;> simp

/-- Every vertex of the earlier scope is live in the later one. -/
def KeepsVertices (earlier later : Scope) : Prop :=
  ∀ id, earlier.containsVertex id = true → later.containsVertex id = true

namespace KeepsVertices

theorem refl (scope : Scope) : scope.KeepsVertices scope := fun _ contained => contained

theorem trans {first second third : Scope} (earlier : first.KeepsVertices second)
    (later : second.KeepsVertices third) : first.KeepsVertices third :=
  fun id contained => later id (earlier id contained)

theorem of_follows {earlier later : Scope}
    (follows : later.arena.Follows earlier.arena) : earlier.KeepsVertices later :=
  fun _ => follows.vertexLive

end KeepsVertices

/-- Only rolling back can lose a vertex. -/
theorem Sound.keepsVertices (sound : scope.Sound catalog) (catalogSound : catalog.Sound)
    {request : Request} (forward : request ≠ .rollback) :
    scope.KeepsVertices (scope.serve catalog request).scope := by
  rcases (sound.serve_effect catalogSound request).edits_or_teardown with
    ⟨arena, same, edited⟩ | ⟨-, same⟩ | ⟨back, -⟩
  · rw [same]
    exact .of_follows (Arena.Follows.edits edited)
  · rw [same]
    intro id contained
    change (scope.arena.unmark.vertex? id).isSome = true
    rw [Arena.vertex?_unmark, Option.isSome_map]
    exact contained
  · exact absurd back forward

end Scope

namespace Workspace

/--
In every reachable workspace no request to a scope ends with a violation, every
query about any vertex has its answers, a handle to a live vertex can be viewed
after every run without a rollback of the scope, and both the current arena and
the checkpoint have exactly one entry wherever a live relation belongs and no
other entry.
-/
theorem no_violation {workspace : Workspace} (reachable : workspace.Reachable) {position : Nat}
    {scope : Scope} (opened : workspace.scopes[position]? = some scope) :
    (∀ request breach,
        (scope.serve workspace.catalog request).result ≠ .error (.violation breach)) ∧
      (∀ query : Query, query.Answers scope workspace.catalog) ∧
      (∀ handle, scope.containsVertex handle = true → ∀ steps,
        Step.scope position .rollback ∉ steps →
          ∃ last, (workspace.after steps).scopes[position]? = some last ∧
            ∃ vertex, last.view handle = .ok vertex) ∧
      scope.arena.Indexed ∧ (∀ kept ∈ scope.checkpoint, kept.Indexed) := by
  have sound := reachable.sound
  have scopeSound := sound.scopeAt opened
  refine ⟨?_, ?_, ?_, scopeSound.arena.indexed_entries, ?_⟩
  · intro request
    exact (scopeSound.serve_effect sound.catalog request).result_ne_violation
  · exact fun query => (Query.scans scopeSound.arena sound.catalog query).answers
  · intro handle contained steps forward
    have allowed : ∀ request, Step.scope position request ∈ steps → request ≠ .rollback :=
      fun request member same => forward (same ▸ member)
    obtain ⟨last, reached, keeps⟩ := sound.run (· ≠ .rollback) Scope.KeepsVertices .refl .trans
      (fun scopeSound catalogSound => scopeSound.keepsVertices catalogSound) opened allowed
    obtain ⟨vertex, found⟩ := Option.isSome_iff_exists.1 (keeps handle contained)
    refine ⟨last, reached, vertex, ?_⟩
    simp only [Scope.view, Scope.vertex?, found]
  · intro kept committed
    have base : scope.base = kept := by
      rw [Scope.base, Option.mem_def.1 committed, Option.getD_some]
    rw [← base]
    exact scopeSound.base.indexed_entries

def returnSteps : List Step :=
  [.start .standard, .scope 0 .addVertex, .scope 0 (.addEdge ⟨1⟩ "likes" ⟨1⟩), .scope 0 .commit,
    .scope 0 (.removeRelation ⟨1⟩), .scope 0 .rollback]

/-- The loop that came back can be removed again, and its vertex can be viewed. -/
theorem no_violation_returned :
    ∃ scope, ((ofCatalog .fresh).after returnSteps).scopes[0]? = some scope ∧
      (∀ breach, (scope.serve ((ofCatalog .fresh).after returnSteps).catalog
        (.removeRelation ⟨1⟩)).result ≠ .error (.violation breach)) ∧
      (∃ last, (((ofCatalog .fresh).after returnSteps).after [.scope 0 .commit]).scopes[0]? =
        some last ∧ ∃ vertex, last.view ⟨1⟩ = .ok vertex) ∧
      scope.arena.Indexed := by
  obtain ⟨served, -, viewed, indexed, -⟩ :=
    no_violation (Reachable.fresh.after returnSteps)
      (rfl : ((ofCatalog .fresh).after returnSteps).scopes[0]? = some _)
  exact ⟨_, rfl, served _, viewed ⟨1⟩ rfl [.scope 0 .commit] (by simp), indexed⟩

end Workspace

end PropertyGraph
