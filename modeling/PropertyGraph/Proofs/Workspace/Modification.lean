import Mathlib.Data.List.Induction
import PropertyGraph.Proofs.Arena.Degree
import PropertyGraph.Proofs.Scope.Touching
import PropertyGraph.Proofs.Workspace.Run
import PropertyGraph.Scope.Reading

/-!
# The marks of a scope tell its history

A vertex is marked as modified exactly if a request touched it after the scope
was opened, last committed or last rolled back.  So a vertex that is not marked
is as it was then, and the answers of commits and rollbacks count the vertices
that were touched.
-/

namespace PropertyGraph

namespace Arena

/-- The vertex has the same record, edges and properties in both arenas. -/
structure KeepsVertex (earlier later : Arena) (id : VertexId) : Prop where
  record : later.vertex? id = earlier.vertex? id
  outgoing : (later.liveEdges.filter fun edge => edge.source = id) =
    earlier.liveEdges.filter fun edge => edge.source = id
  incoming : (later.liveEdges.filter fun edge => edge.target = id) =
    earlier.liveEdges.filter fun edge => edge.target = id
  properties : (later.liveProperties.filter fun property => property.owner = id) =
    earlier.liveProperties.filter fun property => property.owner = id

/-- The live edges of some sort that belong to the vertex are around it. -/
theorem filter_liveEdges {id : VertexId} {keep : Edge → Bool}
    (incident : ∀ edge, keep edge = true → (Relation.edge edge).isIncidentOn id = true)
    (arena : Arena) :
    arena.liveEdges.filter keep = ((arena.around id).filterMap Relation.edge?).filter keep := by
  rw [around, liveEdges, List.filterMap_filter, List.filter_filterMap, List.filter_filterMap]
  apply List.filterMap_congr
  intro relation _
  cases relation with
  | edge e =>
      cases kept : keep e with
      | false => cases (Relation.edge e).isIncidentOn id <;> simp [Option.filter, kept]
      | true => simp [Option.filter, kept, incident e kept]
  | property p => simp

theorem filter_liveProperties (id : VertexId) (arena : Arena) :
    (arena.liveProperties.filter fun property => property.owner = id) =
      (arena.around id).filterMap Relation.property? := by
  rw [around, liveProperties, List.filterMap_filter, List.filter_filterMap]
  apply List.filterMap_congr
  intro relation _
  cases relation with
  | edge e => simp
  | property p => rfl

/-- A vertex with the same relations around it has the same edges and properties. -/
theorem keepsVertex {earlier later : Arena} {id : VertexId}
    (record : later.vertex? id = earlier.vertex? id)
    (relations : later.around id = earlier.around id) : earlier.KeepsVertex later id := by
  have starting (edge : Edge) (starts : decide (edge.source = id) = true) :
      (Relation.edge edge).isIncidentOn id = true := by
    simp [Relation.isIncidentOn, of_decide_eq_true starts]
  have ending (edge : Edge) (ends : decide (edge.target = id) = true) :
      (Relation.edge edge).isIncidentOn id = true := by
    simp [Relation.isIncidentOn, of_decide_eq_true ends]
  refine ⟨record, ?_, ?_, ?_⟩
  · rw [filter_liveEdges starting, filter_liveEdges starting, relations]
  · rw [filter_liveEdges ending, filter_liveEdges ending, relations]
  · rw [filter_liveProperties, filter_liveProperties, relations]

end Arena

namespace Workspace

variable {workspace : Workspace} {position : Nat} {id : VertexId}

/-- No step commits or rolls back the scope of the position. -/
def Uninterrupted (position : Nat) (steps : List Step) : Prop :=
  ∀ request, Step.scope position request ∈ steps → request.tearsDown = false

/-- The step is a request to the scope of the position that touches the vertex. -/
def TouchedBy (workspace : Workspace) (step : Step) (position : Nat) (id : VertexId) : Prop :=
  ∃ request scope, step = .scope position request ∧
    workspace.scopes[position]? = some scope ∧
    scope.arena.Touches id request (scope.serve workspace.catalog request).result

/--
Some step of the run touched the vertex in the scope of the position, and the
scope was neither committed nor rolled back since.
-/
def TouchedSince (workspace : Workspace) (steps : List Step) (position : Nat) (id : VertexId) :
    Prop :=
  ∃ before step later, steps = before ++ step :: later ∧ Uninterrupted position later ∧
    (workspace.after before).TouchedBy step position id

def marks (workspace : Workspace) (position : Nat) (id : VertexId) : Bool :=
  workspace.scopes[position]?.any (·.arena.isMarked id)

/-- What a further step does to the history of a vertex. -/
theorem touchedSince_append_iff {steps : List Step} {step : Step} :
    workspace.TouchedSince (steps ++ [step]) position id ↔
      (Uninterrupted position [step] ∧ workspace.TouchedSince steps position id) ∨
        (workspace.after steps).TouchedBy step position id := by
  constructor
  · rintro ⟨before, touching, later, split, uninterrupted, touched⟩
    rcases List.eq_nil_or_concat later with rfl | ⟨init, last, rfl⟩
    · obtain ⟨rfl, same⟩ := List.append_inj' split rfl
      rw [List.singleton_inj] at same
      subst same
      exact .inr touched
    · rw [List.concat_eq_append] at split uninterrupted
      rw [← List.cons_append, ← List.append_assoc] at split
      obtain ⟨rfl, same⟩ := List.append_inj' split rfl
      rw [List.singleton_inj] at same
      subst same
      refine .inl ⟨?_, before, touching, init, rfl, ?_, touched⟩
      · exact fun other member => uninterrupted other (List.mem_append.2 (.inr member))
      · exact fun other member => uninterrupted other (List.mem_append.2 (.inl member))
  · rintro (⟨quiet, before, touching, later, rfl, uninterrupted, touched⟩ | touched)
    · refine ⟨before, touching, later ++ [step], by simp, ?_, touched⟩
      intro other member
      rcases List.mem_append.1 member with old | new
      · exact uninterrupted other old
      · exact quiet other new
    · exact ⟨steps, step, [], rfl, fun _ member => absurd member List.not_mem_nil, touched⟩

/-- Nothing is marked in a scope that was just opened. -/
theorem marks_serve_of_unopened (unopened : workspace.scopes[position]? = none) (step : Step) :
    (workspace.serve step).2.marks position id = false := by
  cases opened : (workspace.serve step).2.scopes[position]? with
  | none => rw [marks, opened, Option.any_none]
  | some scope =>
      obtain ⟨config, grown, started⟩ := started_of_unopened unopened opened
      obtain ⟨label, -, same⟩ := map_eq_ok_iff.1 started
      cases same
      rw [marks, opened]
      simp [Arena.isMarked, Arena.vertex?, Arena.fresh]

section

variable {scope : Scope} (opened : workspace.scopes[position]? = some scope)
include opened

theorem marks_eq (id : VertexId) : workspace.marks position id = scope.arena.isMarked id := by
  rw [marks, opened, Option.any_some]

theorem touchedBy_scope_iff (request : Scope.Request) :
    workspace.TouchedBy (.scope position request) position id ↔
      scope.arena.Touches id request (scope.serve workspace.catalog request).result := by
  simp [TouchedBy, opened]

end

/-- A step marks what it touches, and unless it is a teardown it keeps the marks. -/
theorem Sound.marks_serve (sound : workspace.Sound) (step : Step) :
    (workspace.serve step).2.marks position id = true ↔
      (Uninterrupted position [step] ∧ workspace.marks position id = true) ∨
        workspace.TouchedBy step position id := by
  cases opened : workspace.scopes[position]? with
  | none =>
      have before : workspace.marks position id = false := by rw [marks, opened, Option.any_none]
      simp [marks_serve_of_unopened opened, before, TouchedBy, opened]
  | some scope =>
      cases asked : step.requestTo? position with
      | none =>
          have notAsked (request : Scope.Request) : step ≠ .scope position request := by
            intro same
            rw [Step.requestTo?_eq_some_iff.2 same] at asked
            cases asked
          have quiet : Uninterrupted position [step] := fun request member =>
            absurd (List.mem_singleton.1 member).symm (notAsked request)
          rw [marks_eq (scope_serve_of_none asked opened), marks_eq opened]
          simp [quiet, TouchedBy, notAsked]
      | some request =>
          rw [Step.requestTo?_eq_some_iff] at asked
          subst asked
          have quiet : Uninterrupted position [.scope position request] ↔
              request.tearsDown = false := by
            simp [Uninterrupted]
          rw [marks_eq (scope_serve_scope opened request), marks_eq opened, quiet,
            touchedBy_scope_iff opened, (sound.scopeAt opened).isMarked_serve sound.catalog]

/--
After a run that opened the scope, the marked vertices are those that were
touched.  The induction splits off the last step, where a history ends.
-/
theorem Sound.marks_iff (sound : workspace.Sound)
    (unopened : workspace.scopes[position]? = none) (steps : List Step) :
    (workspace.after steps).marks position id = true ↔
      workspace.TouchedSince steps position id := by
  induction steps using List.reverseRecOn with
  | nil =>
      have unmarked : (workspace.after []).marks position id = false := by
        change workspace.marks position id = false
        rw [marks, unopened, Option.any_none]
      have untouched : ¬ workspace.TouchedSince [] position id := by
        rintro ⟨before, step, later, split, -⟩
        simp at split
      simp [unmarked, untouched]
  | append_singleton steps step ih =>
      rw [after_singleton, (sound.after steps).2.marks_serve, touchedSince_append_iff, ih]

/-- What is not marked is as it was at any earlier time since the last teardown. -/
theorem Sound.keepsVertex {before later : List Step} {begun scope : Scope}
    (sound : workspace.Sound) (uninterrupted : Uninterrupted position later)
    (began : (workspace.after before).scopes[position]? = some begun)
    (opened : (workspace.after (before ++ later)).scopes[position]? = some scope)
    (present : begun.containsVertex id = true) (unmarked : scope.arena.isMarked id = false) :
    begun.arena.KeepsVertex scope.arena id := by
  obtain ⟨last, reached, keeps⟩ := (sound.after before).2.run (·.tearsDown = false)
    (fun earlier later => earlier.arena.KeepsUnmarked later.arena) (fun scope => .refl scope.arena)
    .trans (fun scopeSound => scopeSound.keepsUnmarked) began uninterrupted
  rw [after_append, reached] at opened
  cases opened
  exact Arena.keepsVertex (keeps.vertex? id present unmarked) (keeps.around id present unmarked)

/-- The steps lead to the workspace from a catalog over which no scope was opened yet. -/
structure History (workspace : Workspace) (catalog : Catalog) (steps : List Step) : Prop where
  begun : (ofCatalog catalog).Reachable
  reached : (ofCatalog catalog).after steps = workspace

theorem Reachable.exists_history (reachable : workspace.Reachable) :
    ∃ catalog steps, workspace.History catalog steps := by
  induction reachable with
  | fresh => exact ⟨.fresh, [], .fresh, rfl⟩
  | restored accepted => exact ⟨_, [], .restored accepted, rfl⟩
  | step _ step ih =>
      obtain ⟨catalog, steps, begun, rfl⟩ := ih
      exact ⟨catalog, steps ++ [step], begun, after_singleton _ steps step⟩

/-- The marks of the scope, and what it has kept, follow from the steps that led to it. -/
structure Records (catalog : Catalog) (steps : List Step) (position : Nat) (scope : Scope) :
    Prop where
  modified_iff : ∀ id vertex, scope.vertex? id = some vertex →
    (vertex.modified = true ↔ (ofCatalog catalog).TouchedSince steps position id)
  /-- An unmarked vertex is as it was at every time since the last teardown. -/
  unmodified : ∀ before later begun, steps = before ++ later → Uninterrupted position later →
    ((ofCatalog catalog).after before).scopes[position]? = some begun →
      ∀ id vertex, begun.containsVertex id = true → scope.vertex? id = some vertex →
        vertex.modified = false → begun.arena.KeepsVertex scope.arena id
  listed_once : scope.modified.Nodup
  mem_modified_iff : ∀ id, id ∈ scope.modified ↔
    scope.containsVertex id = true ∧ (ofCatalog catalog).TouchedSince steps position id
  commit : ∀ current,
    (scope.serve current .commit).result = .ok (.modified scope.modified.length)
  rollback : ∀ current,
    (scope.serve current .rollback).result = .ok (.modified scope.modified.length)

/--
Every reachable workspace has a history, and whichever history it has, the
marks of each scope tell which vertices were touched since the scope was
opened, last committed or last rolled back.
-/
theorem marks_tell_history (reachable : workspace.Reachable) {scope : Scope}
    (opened : workspace.scopes[position]? = some scope) :
    (∃ catalog steps, workspace.History catalog steps) ∧
      ∀ catalog steps, workspace.History catalog steps →
        Records catalog steps position scope := by
  refine ⟨reachable.exists_history, ?_⟩
  rintro catalog steps ⟨begun, rfl⟩
  have sound := begun.sound
  have consistent := (reachable.sound.scopeAt opened).arena.toConsistent
  have marked (id : VertexId) : scope.arena.isMarked id = true ↔
      (ofCatalog catalog).TouchedSince steps position id := by
    rw [← sound.marks_iff rfl steps, marks_eq opened]
  have mark (id : VertexId) (vertex : Vertex) (found : scope.vertex? id = some vertex) :
      scope.arena.isMarked id = vertex.modified := by
    rw [Arena.isMarked]
    exact congrArg (Option.any Vertex.modified) found
  refine
    { modified_iff := ?_
      unmodified := ?_
      listed_once := ?_
      mem_modified_iff := ?_
      commit := ?_
      rollback := ?_ }
  · intro id vertex found
    rw [← mark id vertex found, marked]
  · rintro before later begun rfl uninterrupted began id vertex present found unmodified
    exact sound.keepsVertex uninterrupted began opened present
      ((mark id vertex found).trans unmodified)
  · exact consistent.vertexIds_nodup.sublist (List.filter_sublist.map Vertex.id)
  · intro id
    rw [Scope.modified, Arena.mem_modifiedVertices_iff consistent, ← marked]
    refine ⟨fun isMarked => ⟨?_, isMarked⟩, fun present => present.2⟩
    obtain ⟨vertex, found, -⟩ := (Option.any_eq_true _ _).1 isMarked
    exact Option.isSome_iff_exists.2 ⟨vertex, found⟩
  · intro current
    rw [Scope.modified, List.length_map]
    rfl
  · intro current
    rw [Scope.modified, List.length_map]
    rfl

/-- An edge is committed; then a property is added to a third vertex, and another is refused. -/
def markedSteps : List Step :=
  [.start .standard, .scope 0 .addVertex, .scope 0 .addVertex, .scope 0 .addVertex,
    .scope 0 (.addEdge ⟨1⟩ "l" ⟨2⟩), .scope 0 .commit,
    .scope 0 (.addProperty ⟨3⟩ "p" (.integer 1)), .scope 0 (.addProperty ⟨1⟩ "p" .null)]

/-- Only the third vertex was touched since the commit, which the next commit answers. -/
theorem marks_tell_history_third :
    ∃ scope, ((ofCatalog .fresh).after markedSteps).scopes[0]? = some scope ∧
      (ofCatalog .fresh).TouchedSince markedSteps 0 ⟨3⟩ ∧
      ¬ (ofCatalog .fresh).TouchedSince markedSteps 0 ⟨1⟩ ∧
      (scope.serve ((ofCatalog .fresh).after markedSteps).catalog .commit).result =
        .ok (.modified 1) := by
  have opened : ((ofCatalog .fresh).after markedSteps).scopes[0]? = some _ := rfl
  have records := (marks_tell_history (Reachable.fresh.after markedSteps) opened).2 .fresh
    markedSteps ⟨.fresh, rfl⟩
  refine ⟨_, opened, ?_, ?_, records.commit _⟩
  · exact (records.modified_iff ⟨3⟩ _ rfl).1 rfl
  · intro touched
    exact absurd ((records.modified_iff ⟨1⟩ _ rfl).2 touched) Bool.false_ne_true

end Workspace

end PropertyGraph
