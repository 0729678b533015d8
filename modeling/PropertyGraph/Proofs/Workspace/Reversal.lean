import PropertyGraph.Proofs.Scope.Reversal
import PropertyGraph.Proofs.Workspace.Run

/-!
# Undoing an addition

In whatever state a relation is added, removing it again gives back every read
of that state.
-/

namespace PropertyGraph.Workspace

/--
In every reachable workspace, an edge that was just added, or a property that
was just added and took no other's place, is removed again by its id.  The
removal answers that relation, and afterwards everything reads as before the
addition: marks on the endpoints, the relation number that was used and perhaps
one new descriptor are all that is left.
-/
theorem removal_undoes_addition {workspace : Workspace} (reachable : workspace.Reachable)
    {scope later : Scope} (opened : scope ∈ workspace.scopes) {request : Scope.Request}
    {answer : Scope.Answer} {grown : Catalog} {relation : Relation}
    (added : scope.serve workspace.catalog request = ⟨.ok answer, later, grown⟩)
    (adds : scope.AddsRelation answer relation) :
    ∃ last, later.serve grown (.removeRelation relation.id) =
        ⟨.ok (.relation relation), last, grown⟩ ∧
      scope.Undone workspace.catalog relation last grown :=
  (reachable.sound.scopes scope opened).removal_undoes reachable.sound.catalog added adds

def edgeSteps : List Step :=
  [.start .standard, .scope 0 .addVertex, .scope 0 .addVertex, .scope 0 (.addEdge ⟨1⟩ "a" ⟨2⟩)]

def newLoop : Edge := ⟨⟨2⟩, ⟨⟨1⟩, "b"⟩, ⟨1⟩, ⟨1⟩⟩

/-- A loop under a new label is added and removed. -/
theorem removal_undoes_addition_loop :
    ∃ scope, ((ofCatalog .fresh).after edgeSteps).scopes = [scope] ∧
      ∃ later last grown,
        scope.serve ((ofCatalog .fresh).after edgeSteps).catalog (.addEdge ⟨1⟩ "b" ⟨1⟩) =
          ⟨.ok (.edge newLoop), later, grown⟩ ∧
        later.serve grown (.removeRelation ⟨2⟩) = ⟨.ok (.relation (.edge newLoop)), last, grown⟩ ∧
        scope.Undone ((ofCatalog .fresh).after edgeSteps).catalog (.edge newLoop) last grown := by
  refine ⟨_, rfl, ?_⟩
  obtain ⟨last, removed, undone⟩ := removal_undoes_addition (Reachable.fresh.after edgeSteps)
    List.mem_cons_self
    (rfl : Scope.serve _ _ (.addEdge ⟨1⟩ "b" ⟨1⟩) = ⟨.ok (.edge newLoop), _, _⟩) (.edge newLoop)
  exact ⟨_, last, _, rfl, removed, undone⟩

end PropertyGraph.Workspace
