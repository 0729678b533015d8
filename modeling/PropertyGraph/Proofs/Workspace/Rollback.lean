import PropertyGraph.Proofs.Scope.Rollback
import PropertyGraph.Proofs.Scope.Succession
import PropertyGraph.Proofs.Workspace.Run

/-!
# Rollback over runs

A scope that was just committed, or just opened, is retained: whatever run
follows without a commit of the scope, the rollback after it gives the scope
back, though the shared catalog may have grown and the next numbers are those
of the discarded arena.
-/

namespace PropertyGraph.Workspace

/-- After every run without a commit of the position its scope rolls back to the given one. -/
def Retains (workspace : Workspace) (position : Nat) (kept : Scope) : Prop :=
  ∀ steps, Step.scope position .commit ∉ steps →
    ∃ last, (workspace.after steps).scopes[position]? = some last ∧
      last.RollsBackTo (workspace.after steps).catalog kept workspace.catalog

namespace Sound

variable {workspace : Workspace} {position : Nat} {scope : Scope}

/-- A scope whose arena is its last committed one is retained. -/
theorem retains (sound : workspace.Sound) (opened : workspace.scopes[position]? = some scope)
    (settled : scope.base = scope.arena) : workspace.Retains position scope := by
  intro steps uncommitted
  have allowed : ∀ request, Step.scope position request ∈ steps → request ≠ .commit :=
    fun request member same => uncommitted (same ▸ member)
  obtain ⟨last, reached, shares⟩ := sound.run (· ≠ .commit) Scope.SharesCommit .refl .trans
    (fun scopeSound catalogSound => scopeSound.sharesCommit catalogSound) opened allowed
  have lastSound := (sound.after steps).2
  exact ⟨last, reached, (lastSound.scopeAt reached).rollsBackTo lastSound.catalog
    (sound.scopeAt opened) sound.catalog settled shares⟩

/-- A scope is retained right after it was committed. -/
theorem retains_commit (sound : workspace.Sound)
    (opened : workspace.scopes[position]? = some scope) :
    (workspace.serve (.scope position .commit)).2.Retains position scope.commit.2 :=
  (sound.serve _).2.retains (scope_serve_scope opened .commit) rfl

/-- A scope is retained right after it was opened. -/
theorem retains_start (sound : workspace.Sound) {config : Config} {grown : Catalog}
    (started : Scope.start config workspace.catalog = .ok (scope, grown)) :
    (workspace.serve (.start config)).2.Retains workspace.scopes.length scope := by
  have opened : (workspace.serve (.start config)).2.scopes[workspace.scopes.length]? =
      some scope := by
    simp [Workspace.serve, started]
  refine (sound.serve (.start config)).2.retains opened ?_
  obtain ⟨label, -, same⟩ := map_eq_ok_iff.1 started
  cases same
  rfl

end Sound

/--
In every reachable workspace, a scope that is committed or opened is what every
rollback gives back until its next commit: all reads answer as they did, even
over a grown catalog, nothing is marked as modified, the answer is the number of
vertices that were, and a second rollback changes nothing.  Committing changes
no read but the marks, and over any run the next numbers never go down.
-/
theorem rollback_restores {workspace : Workspace} (reachable : workspace.Reachable) :
    (∀ (position : Nat) (scope : Scope), workspace.scopes[position]? = some scope →
        (workspace.serve (.scope position .commit)).2.Retains position scope.commit.2) ∧
      (∀ config scope grown, Scope.start config workspace.catalog = .ok (scope, grown) →
        (workspace.serve (.start config)).2.Retains workspace.scopes.length scope) ∧
      (∀ scope ∈ workspace.scopes,
        scope.commit.2.ReadsAs workspace.catalog scope workspace.catalog ∧
          ∀ id vertex, scope.commit.2.vertex? id = some vertex → vertex.modified = false) ∧
      (∀ (position : Nat) (scope : Scope), workspace.scopes[position]? = some scope → ∀ steps,
        ∃ last : Scope, (workspace.after steps).scopes[position]? = some last ∧
          scope.arena.vertices.next ≤ last.arena.vertices.next ∧
          scope.arena.relations.next ≤ last.arena.relations.next) := by
  have sound := reachable.sound
  refine ⟨fun _ _ => sound.retains_commit, fun _ _ _ => sound.retains_start, ?_, ?_⟩
  · intro scope opened
    have scopeSound := sound.scopes scope opened
    exact ⟨Scope.readsAs (.unmark scope.arena) scopeSound.commit.arena sound.catalog
      scopeSound.arena sound.catalog, fun _ _ => Arena.modified_unmark⟩
  · intro position scope opened steps
    obtain ⟨last, reached, succeeds⟩ := sound.run (fun _ => True)
      (fun earlier later => later.Succeeds earlier) .refl (fun earlier later => earlier.trans later)
      (fun scopeSound catalogSound _ =>
        (scopeSound.serve_effect catalogSound _).succeeds scopeSound) opened
      (fun _ _ => trivial)
    exact ⟨last, reached, succeeds.vertices_next, succeeds.relations_next⟩

def openingSteps : List Step := [.start .standard, .scope 0 .addVertex]

def discardedSteps : List Step :=
  [.scope 0 (.addEdge ⟨1⟩ "likes" ⟨1⟩), .scope 0 (.removeRelation ⟨1⟩), .scope 0 .rollback,
    .catalog (.defineEdgeLabel "knows"), .scope 0 .addVertex,
    .scope 0 (.addEdge ⟨1⟩ "knows" ⟨2⟩)]

/-- The committed vertex is back alone, and its edges are none, while the ids are used up. -/
theorem rollback_restores_vertex :
    ∃ last, ((((ofCatalog .fresh).after openingSteps).serve (.scope 0 .commit)).2.after
        discardedSteps).scopes[0]? = some last ∧
      last.vertexCount = 2 ∧ last.rollback.2.vertexCount = 1 ∧
      (Query.around ⟨1⟩).edgeCount last.rollback.2
        ((((ofCatalog .fresh).after openingSteps).serve (.scope 0 .commit)).2.after
          discardedSteps).catalog = 0 ∧
      last.rollback.2.arena.relations.next = 3 := by
  obtain ⟨committed, -, -, -⟩ := rollback_restores (Reachable.fresh.after openingSteps)
  obtain ⟨last, reached, restored⟩ := committed 0 _ rfl discardedSteps (by simp [discardedSteps])
  have same := Option.some.inj reached
  subst same
  refine ⟨_, reached, rfl, ?_, ?_, ?_⟩
  · exact restored.reads.vertexCount.trans rfl
  · exact (restored.reads.edgeCount _).trans rfl
  · exact restored.relations_next.2.trans rfl

end PropertyGraph.Workspace
