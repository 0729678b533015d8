import PropertyGraph.Proofs.Scope.Retirement
import PropertyGraph.Proofs.Workspace.Identity

/-!
# Dead ids stay dead

An id that a run has handed out, and that is not live right after a commit or
a rollback, is never live again: whatever follows, requests that name it are
refused.
-/

namespace PropertyGraph.Workspace

section

variable {workspace : Workspace} {position : Nat}

/-- The scope at the end of a run succeeds every moment of the run. -/
theorem last_succeeds (sound : workspace.Sound) {steps : List Step} {moment : Scope}
    (member : moment ∈ workspace.moments position steps) :
    ∃ last, (workspace.after steps).scopes[position]? = some last ∧ last.Succeeds moment := by
  induction steps generalizing workspace moment with
  | nil => exact ⟨moment, Option.mem_toList.1 member, .refl moment⟩
  | cons step rest ih =>
      have nextSound := (sound.serve step).2
      rcases List.mem_append.1 member with here | later
      · obtain ⟨next, reached, succeeds⟩ :=
          succeeds_serve sound (Option.mem_toList.1 here) step
        obtain ⟨last, ended, on⟩ := ih nextSound (mem_moments_self reached rest)
        exact ⟨last, ended, succeeds.trans on⟩
      · exact ih nextSound later

/-- The numbers of the ids that a run handed out are behind its scope's counters. -/
theorem issued_lt (sound : workspace.Sound) {steps : List Step} {last : Scope}
    (ended : (workspace.after steps).scopes[position]? = some last) :
    (∀ id ∈ (workspace.events position steps).filterMap Event.newVertex?,
        id.number < last.arena.vertices.next) ∧
      ∀ id ∈ (workspace.events position steps).filterMap Event.newRelation?,
        id.number < last.arena.relations.next := by
  constructor
  · intro id member
    obtain ⟨event, happened, new⟩ := List.mem_filterMap.1 member
    obtain ⟨served, -, reached⟩ := events_moments sound happened
    obtain ⟨other, found, succeeds⟩ := last_succeeds sound reached
    cases ended.symm.trans found
    exact Nat.lt_of_lt_of_le (served.newVertex? new).2.2 succeeds.vertices_next
  · intro id member
    obtain ⟨event, happened, new⟩ := List.mem_filterMap.1 member
    obtain ⟨served, -, reached⟩ := events_moments sound happened
    obtain ⟨other, found, succeeds⟩ := last_succeeds sound reached
    cases ended.symm.trans found
    exact Nat.lt_of_lt_of_le (served.newRelation? new).2.2 succeeds.relations_next

/-- The scope after a request to it is what the request made of the scope before. -/
theorem exists_scope_before {request : Scope.Request} {served : Scope}
    (reached : (workspace.serve (.scope position request)).2.scopes[position]? = some served) :
    ∃ scope, workspace.scopes[position]? = some scope ∧
      (scope.serve workspace.catalog request).scope = served := by
  cases opened : workspace.scopes[position]? with
  | none =>
      simp only [serve, opened] at reached
      cases reached
  | some scope =>
      rw [scope_serve_scope opened] at reached
      exact ⟨scope, rfl, Option.some.inj reached⟩

/-- A run keeps what its scope has retired. -/
theorem Sound.keepsRetired_after (sound : workspace.Sound) {scope : Scope}
    (opened : workspace.scopes[position]? = some scope) (steps : List Step) :
    ∃ last, (workspace.after steps).scopes[position]? = some last ∧ scope.KeepsRetired last :=
  sound.run (fun _ => True) Scope.KeepsRetired .refl .trans
    (fun scopeSound catalogSound _ => scopeSound.keepsRetired catalogSound _) opened
    fun _ _ => trivial

end

/--
In every run of a reachable workspace, through any commits and rollbacks: a
vertex id or a relation id that was handed out, and is not live right after a
commit or a rollback of its scope, is not live in any later state.  Requests
that name the vertex meet a missing vertex, and removing the relation is refused.
-/
theorem dead_ids_stay_dead {workspace : Workspace} (reachable : workspace.Reachable)
    (position : Nat) (before : List Step) {request : Scope.Request}
    (teardown : request.tearsDown = true) {closed : Scope}
    (closes : (workspace.after (before ++ [.scope position request])).scopes[position]? =
      some closed) (later : List Step) :
    ∃ last, (workspace.after (before ++ .scope position request :: later)).scopes[position]? =
        some last ∧
      (∀ id ∈ (workspace.events position before).filterMap Event.newVertex?,
        closed.containsVertex id = false →
          last.LacksVertex
            (workspace.after (before ++ .scope position request :: later)).catalog id) ∧
      ∀ id ∈ (workspace.events position before).filterMap Event.newRelation?,
        closed.arena.relation? id = none →
          last.LacksRelation
            (workspace.after (before ++ .scope position request :: later)).catalog id := by
  have sound := reachable.sound
  have beforeSound := (sound.after before).2
  have closedSound := (sound.after (before ++ [.scope position request])).2
  have split : before ++ Step.scope position request :: later =
      (before ++ [.scope position request]) ++ later := by simp
  rw [split, after_append]
  obtain ⟨last, ended, keeps⟩ := closedSound.keepsRetired_after closes later
  rw [after_singleton] at closes
  obtain ⟨scope, opened, rfl⟩ := exists_scope_before closes
  obtain ⟨verticesIssued, relationsIssued⟩ := issued_lt sound opened
  obtain ⟨vertices, relations⟩ :=
    (beforeSound.scopeAt opened).retires_of_tearsDown teardown
  refine ⟨last, ended, ?_, ?_⟩
  · intro id issued dead
    rw [Scope.containsVertex, Option.isSome_eq_false_iff, Option.isNone_iff_eq_none] at dead
    have retired := keeps.vertices id (vertices id (verticesIssued id issued) dead)
    exact Scope.lacksVertex retired.dead _
  · intro id issued dead
    have retired := keeps.relations id (relations id (relationsIssued id issued) dead)
    exact Scope.lacksRelation retired.dead _

/-- A committed edge is removed, and a vertex and an edge are added and not committed. -/
def abandonedSteps : List Step :=
  [.start .standard, .scope 0 .addVertex, .scope 0 (.addEdge ⟨1⟩ "likes" ⟨1⟩), .scope 0 .commit,
    .scope 0 (.removeRelation ⟨1⟩), .scope 0 .addVertex,
    .scope 0 (.addEdge ⟨1⟩ "likes" ⟨2⟩)]

def laterSteps : List Step :=
  [.scope 0 .addVertex, .scope 0 (.addEdge ⟨1⟩ "likes" ⟨3⟩), .scope 0 .commit,
    .scope 0 .addVertex, .scope 0 .rollback]

/-- The removed edge came back with the first rollback, the discarded vertex and edge never do. -/
theorem dead_ids_stay_dead_discarded :
    ∃ last, ((ofCatalog .fresh).after
        (abandonedSteps ++ .scope 0 .rollback :: laterSteps)).scopes[0]? = some last ∧
      (last.arena.relation? ⟨1⟩).isSome ∧
      (∃ catalog, last.LacksVertex catalog ⟨2⟩) ∧ ∃ catalog, last.LacksRelation catalog ⟨2⟩ := by
  have teardown : Scope.Request.tearsDown .rollback = true := rfl
  obtain ⟨last, ended, vertices, relations⟩ :=
    dead_ids_stay_dead .fresh 0 abandonedSteps teardown rfl laterSteps
  have newVertices : ((ofCatalog .fresh).events 0 abandonedSteps).filterMap Event.newVertex? =
      [⟨1⟩, ⟨2⟩] := rfl
  have newRelations : ((ofCatalog .fresh).events 0 abandonedSteps).filterMap
      Event.newRelation? = [⟨1⟩, ⟨2⟩] := rfl
  refine ⟨last, ended, ?_, ⟨_, vertices ⟨2⟩ (by simp [newVertices]) rfl⟩,
    ⟨_, relations ⟨2⟩ (by simp [newRelations]) rfl⟩⟩
  cases ended
  rfl

end PropertyGraph.Workspace
