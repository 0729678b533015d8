import PropertyGraph.Proofs.Query.Listing
import PropertyGraph.Proofs.Workspace.Run

/-!
# Counting edges and listing them

In every reachable workspace the degree that a query counts and the edges that
it lists agree, although the one is read off the index alone and the other
follows every entry to its relation.
-/

namespace PropertyGraph.Workspace

/-- In every reachable workspace the count of any query agrees with its listing. -/
theorem counts_match_listings {workspace : Workspace} (reachable : workspace.Reachable)
    {scope : Scope} (opened : scope ∈ workspace.scopes) (query : Query) :
    query.CountsListing scope workspace.catalog :=
  query.countsListing (reachable.sound.scopes scope opened).arena reachable.sound.catalog

def repeatingSteps : List Step :=
  [.start .standard, .scope 0 .addVertex, .scope 0 .addVertex, .scope 0 (.addEdge ⟨1⟩ "a" ⟨1⟩),
    .scope 0 (.addEdge ⟨1⟩ "b" ⟨2⟩)]

def repeatingQuery : Query :=
  (((Query.around ⟨1⟩).withLabels [.name "a", .name "b", .name "a"]).withLabels
    [.name "b", .name "a"]).atMost 2

/-- Both edges are listed once; their three ends are counted, up to the limit. -/
theorem counts_match_listings_repeating :
    ∃ scope, ((ofCatalog .fresh).after repeatingSteps).scopes[0]? = some scope ∧
      repeatingQuery.unlimited.edgeCount scope
        ((ofCatalog .fresh).after repeatingSteps).catalog = 3 ∧
      repeatingQuery.edgeCount scope ((ofCatalog .fresh).after repeatingSteps).catalog = 2 ∧
      ∃ edges, repeatingQuery.unlimited.edges scope
          ((ofCatalog .fresh).after repeatingSteps).catalog = .ok edges ∧
        edges.map Edge.id = [⟨1⟩, ⟨2⟩] ∧ edges.map Edge.isLoop = [true, false] := by
  have reachable := Reachable.fresh.after repeatingSteps
  have opened : ((ofCatalog .fresh).after repeatingSteps).scopes[0]? = some _ := rfl
  have agrees := counts_match_listings reachable (List.mem_of_getElem? opened) repeatingQuery
  obtain ⟨edges, listed, counted⟩ := agrees.unlimited
  cases listed
  exact ⟨_, opened, counted, agrees.limited 2, _, rfl, rfl, rfl⟩

end PropertyGraph.Workspace
