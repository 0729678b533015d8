import PropertyGraph.Proofs.Arena.Degree
import PropertyGraph.Proofs.Workspace.Run

/-!
# Degrees and counters balance

In every reachable workspace the degrees that the vertices of a scope keep, the
degrees that queries report and the counters of the scope all agree with the
live edges and properties; no relation is taken off a count that is zero.
-/

namespace PropertyGraph

/-- Degrees and counters agree with the live vertices, edges and properties. -/
structure Scope.Balanced (scope : Scope) (catalog : Catalog) : Prop where
  edges : (scope.arena.vertices.live.map Vertex.edgeCount).sum = 2 * scope.arena.liveEdges.length
  outgoing : (scope.arena.vertexIds.map fun id =>
    ((Query.around id).toward .outgoing).edgeCount scope catalog).sum =
      scope.arena.liveEdges.length
  incoming : (scope.arena.vertexIds.map fun id =>
    ((Query.around id).toward .incoming).edgeCount scope catalog).sum =
      scope.arena.liveEdges.length
  properties : (scope.arena.vertices.live.map Vertex.propertyCount).sum =
    scope.arena.liveProperties.length
  relationCount : scope.relationCount =
    scope.arena.liveEdges.length + scope.arena.liveProperties.length
  vertexCount : scope.vertexCount = scope.arena.vertexIds.length
  ascending : scope.arena.vertexIds.Pairwise fun first second => first.number < second.number
  /-- Whichever relations were detached before, the next one is taken off a positive count. -/
  countdown : ∀ ids cleared, scope.arena.detachAll ids = .ok cleared →
    ∀ id relation, cleared.relation? id = some relation →
      ∃ detached, cleared.detach id = .ok (some (relation, detached)) ∧
        detached.relationCount + 1 = cleared.relationCount

namespace Workspace

/-- In every reachable workspace degrees and counters balance. -/
theorem degrees_balance {workspace : Workspace} (reachable : workspace.Reachable)
    {scope : Scope} (opened : scope ∈ workspace.scopes) : scope.Balanced workspace.catalog := by
  have sound := (reachable.sound.scopes scope opened).arena
  have catalogSound := reachable.sound.catalog
  have consistent := sound.toConsistent
  refine
    { edges := consistent.sum_edgeCount
      outgoing := ?_
      incoming := ?_
      properties := consistent.sum_propertyCount
      relationCount := consistent.relationCount_eq
      vertexCount := ?_
      ascending := consistent.vertexIds_ascending
      countdown := ?_ }
  · simp only [Query.edgeCount_outgoing sound catalogSound]
    exact consistent.sum_sources
  · simp only [Query.edgeCount_incoming sound catalogSound]
    exact consistent.sum_targets
  · rw [Scope.vertexCount, consistent.vertices_counted, Arena.vertexIds, List.length_map]
  · intro ids cleared detached id relation found
    obtain ⟨_, succeeds, releases, -⟩ := consistent.detachAll_eq_ok ids
    rw [detached] at succeeds
    cases succeeds
    exact (releases.consistent consistent).detach_counts found

/-- A loop, an edge and a value that replaces another, and an edge that is removed again. -/
def degreeSteps : List Step :=
  [.start .standard, .scope 0 .addVertex, .scope 0 .addVertex, .scope 0 (.addEdge ⟨1⟩ "l" ⟨1⟩),
    .scope 0 (.addEdge ⟨1⟩ "l" ⟨2⟩), .scope 0 (.addProperty ⟨2⟩ "p" (.integer 1)),
    .scope 0 (.addProperty ⟨2⟩ "p" (.integer 2)), .scope 0 (.addEdge ⟨2⟩ "l" ⟨1⟩),
    .scope 0 (.removeRelation ⟨5⟩)]

/-- The first vertex has three edge ends, two of them of the loop. -/
theorem degrees_balance_loop :
    ∃ scope, ((ofCatalog .fresh).after degreeSteps).scopes[0]? = some scope ∧
      scope.Balanced ((ofCatalog .fresh).after degreeSteps).catalog ∧
      scope.arena.vertices.live.map Vertex.edgeCount = [3, 1] ∧
      scope.arena.liveEdges.length = 2 ∧ scope.relationCount = 3 := by
  have reachable := Reachable.fresh.after degreeSteps
  have opened : ((ofCatalog .fresh).after degreeSteps).scopes[0]? = some _ := rfl
  exact ⟨_, opened, degrees_balance reachable (List.mem_of_getElem? opened), rfl, rfl, rfl⟩

end Workspace

end PropertyGraph
