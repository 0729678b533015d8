import PropertyGraph.Proofs.Query.Adjacency
import PropertyGraph.Proofs.Workspace.Run

/-!
# Adjacency is symmetric

In every reachable workspace one vertex is as often a neighbour of another as
the other is of it, seen in the opposite direction and over the same labels,
although the two answers come from different lists of different vertices.
-/

namespace PropertyGraph.Workspace

/--
In every reachable workspace a vertex is listed across a query without a limit
as often as the queried vertex is listed by the query back from it: once for
each live edge under a meant label that joins the two, loops included.
-/
theorem adjacency_symmetric {workspace : Workspace} (reachable : workspace.Reachable)
    {scope : Scope} (opened : scope ∈ workspace.scopes) (query : Query) (other : VertexId) :
    ∃ there back, query.unlimited.vertices scope workspace.catalog = .ok there ∧
      (query.backFrom other).unlimited.vertices scope workspace.catalog = .ok back ∧
      there.count other = back.count query.vertex ∧
      there.count other = (query.joining scope.arena other).length := by
  have sound := (reachable.sound.scopes scope opened).arena
  have scans (asked : Query) := asked.unlimited.scans sound reachable.sound.catalog
  have there := query.count_across scope.arena other
  have back := (query.backFrom other).count_across scope.arena query.vertex
  rw [query.joining_backFrom] at back
  exact ⟨_, _, (scans query).vertices, (scans (query.backFrom other)).vertices,
    there.trans back.symm, there⟩

/-- A loop, two parallel edges, one of another label, and an edge back. -/
def parallelSteps : List Step :=
  [.start .standard, .scope 0 .addVertex, .scope 0 .addVertex, .scope 0 (.addEdge ⟨1⟩ "a" ⟨1⟩),
    .scope 0 (.addEdge ⟨1⟩ "a" ⟨2⟩), .scope 0 (.addEdge ⟨1⟩ "b" ⟨2⟩),
    .scope 0 (.addEdge ⟨1⟩ "c" ⟨2⟩), .scope 0 (.addEdge ⟨2⟩ "a" ⟨1⟩)]

def parallelQuery : Query :=
  ((Query.around ⟨1⟩).withLabels [.name "a", .name "b"]).withLabels [.name "b", .name "a"]

/-- Three edges join the two vertices, and one loop joins the first with itself. -/
theorem adjacency_symmetric_parallel :
    ∃ scope, ((ofCatalog .fresh).after parallelSteps).scopes[0]? = some scope ∧
      ∃ there back, parallelQuery.unlimited.vertices scope
          ((ofCatalog .fresh).after parallelSteps).catalog = .ok there ∧
        (parallelQuery.backFrom ⟨2⟩).unlimited.vertices scope
          ((ofCatalog .fresh).after parallelSteps).catalog = .ok back ∧
        there.count ⟨2⟩ = 3 ∧ back.count ⟨1⟩ = 3 ∧ there.count ⟨1⟩ = 1 := by
  have reachable := Reachable.fresh.after parallelSteps
  have opened : ((ofCatalog .fresh).after parallelSteps).scopes[0]? = some _ := rfl
  have symmetric := adjacency_symmetric reachable (List.mem_of_getElem? opened) parallelQuery
  obtain ⟨there, back, listed, seen, same, joined⟩ := symmetric ⟨2⟩
  obtain ⟨again, -, listedAgain, -, -, looped⟩ := symmetric ⟨1⟩
  cases listed.symm.trans listedAgain
  exact ⟨_, opened, there, back, listed, seen, joined, same.symm.trans joined, looped⟩

end PropertyGraph.Workspace
