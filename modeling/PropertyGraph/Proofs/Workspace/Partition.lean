import PropertyGraph.Proofs.Query.Partition
import PropertyGraph.Proofs.Workspace.Run

/-!
# Names divide what a vertex holds

In every reachable workspace the listings by name take the listing of a live
vertex apart: nothing is lost, nothing is listed under two names, and the names
in use come in the order of the smallest ids under them.
-/

namespace PropertyGraph.Workspace

/--
In every reachable workspace the edges of a live vertex, in each direction, are
divided by the names of the catalog's labels, and its properties by the names
of the keys in use.
-/
theorem names_partition {workspace : Workspace} (reachable : workspace.Reachable)
    {scope : Scope} (opened : scope ∈ workspace.scopes) {id : VertexId} {vertex : Vertex}
    (found : scope.vertex? id = some vertex) :
    (∀ direction, ∃ all, scope.DividesEdges workspace.catalog id direction all) ∧
      vertex.id = id ∧
      ∃ names under, scope.DividesProperties workspace.catalog vertex names under := by
  have sound := (reachable.sound.scopes scope opened).arena
  refine ⟨?_, Arena.id_of_vertex? sound.vertices_numbered found, ?_⟩
  · intro direction
    exact ⟨_, Scope.dividesEdges sound reachable.sound.catalog id direction⟩
  · exact ⟨_, _, Scope.dividesProperties sound reachable.sound.catalog
      (Arena.Consistent.mem_live_of_vertex? found)⟩

/-- A loop and an edge under two labels; the first of two single values is replaced. -/
def replacedSteps : List Step :=
  [.start .standard, .scope 0 .addVertex, .scope 0 .addVertex, .scope 0 (.addEdge ⟨1⟩ "b" ⟨1⟩),
    .scope 0 (.addEdge ⟨1⟩ "a" ⟨2⟩), .scope 0 (.addProperty ⟨1⟩ "first" (.integer 1)),
    .scope 0 (.addProperty ⟨1⟩ "second" (.integer 2)),
    .scope 0 (.addProperty ⟨1⟩ "first" (.integer 3))]

/-- The replaced key comes last, with the value that it has now. -/
theorem names_partition_replaced :
    ∃ scope, ((ofCatalog .fresh).after replacedSteps).scopes[0]? = some scope ∧
      ∃ vertex, scope.vertex? ⟨1⟩ = some vertex ∧
        (∃ all, scope.DividesEdges ((ofCatalog .fresh).after replacedSteps).catalog ⟨1⟩ .both
            all ∧ all.map Edge.id = [⟨1⟩, ⟨2⟩]) ∧
        ∃ names under, scope.DividesProperties ((ofCatalog .fresh).after replacedSteps).catalog
            vertex names under ∧ names = ["second", "first"] ∧
          (under "first").map Property.id = [⟨5⟩] ∧ vertex.propertyCount = 2 := by
  have reachable := Reachable.fresh.after replacedSteps
  have opened : ((ofCatalog .fresh).after replacedSteps).scopes[0]? = some _ := rfl
  have divides := @names_partition _ reachable _ (List.mem_of_getElem? opened) ⟨1⟩
  obtain ⟨edges, -, names, under, properties⟩ := divides rfl
  obtain ⟨all, divided⟩ := edges .both
  have listed := congrArg (Except.map (List.map Edge.id)) divided.unfiltered
  have held := congrArg (Except.map (List.map Property.id)) (properties.listed "first")
  exact ⟨_, opened, _, rfl, ⟨all, divided, Except.ok.inj (listed.symm.trans rfl)⟩, names, under,
    properties, Except.ok.inj (properties.used.symm.trans rfl),
    Except.ok.inj (held.symm.trans rfl), rfl⟩

end PropertyGraph.Workspace
