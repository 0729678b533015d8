import PropertyGraph.Proofs.Query.Constraint
import PropertyGraph.Proofs.Workspace.Run

/-!
# Constraints conjoin

However a query was built up, its constraints are a conjunction of groups, each
of them a disjunction of references.  The order of the calls, their repetition
and calls that name nothing are of no account, and every further group selects
from the answer.
-/

namespace PropertyGraph.Workspace

/--
Over every catalog the filters of a query let pass what all groups have a
reference for.  So calls that ask for the same lead to the same answers, and in
every reachable workspace one more group, of a query without a limit, selects
from the answer what the group admits.
-/
theorem constraints_conjoin :
    (∀ (catalog : Catalog) (query : Query),
      catalog.edgeLabels.Conjoins query.labels (query.labelFilter catalog) ∧
        catalog.propertyKeys.Conjoins query.keys (query.keyFilter catalog)) ∧
    (∀ (scope : Scope) (catalog : Catalog) (query : Query) (first second : List Query.Call),
      Query.Call.Agree first second →
        (query.build first).read scope catalog = (query.build second).read scope catalog) ∧
    ∀ workspace : Workspace, workspace.Reachable → ∀ scope ∈ workspace.scopes,
      ∀ query : Query, query.limit = none → query.Narrows scope workspace.catalog := by
  refine ⟨?_, ?_, ?_⟩
  · intro catalog query
    exact ⟨catalog.edgeLabels.typeFilter_conjoins query.labels,
      catalog.propertyKeys.typeFilter_conjoins query.keys⟩
  · intro scope catalog query first second agree
    exact query.read_build_of_agree agree scope catalog
  · intro workspace reachable scope opened query unlimited
    exact Query.narrows (reachable.sound.scopes scope opened).arena reachable.sound.catalog
      unlimited

def overlappingSteps : List Step :=
  [.start .standard, .scope 0 .addVertex, .scope 0 (.addEdge ⟨1⟩ "a" ⟨1⟩),
    .scope 0 (.addEdge ⟨1⟩ "b" ⟨1⟩), .scope 0 (.addProperty ⟨1⟩ "age" (.integer 30))]

def overlappingCalls : List Query.Call := [.labels ["a", "b"], .labels ["b", "c"]]

/-- The same groups in the other order and with a repetition, among calls that name nothing. -/
def reorderedCalls : List Query.Call :=
  [.keys [], .labels ["b", "c"], .labels [], .labels ["a", "b"], .labels ["b", "c"]]

theorem overlappingCalls_agree : Query.Call.Agree overlappingCalls reorderedCalls where
  direction := rfl
  limit := rfl
  constraints := by
    intro call named
    simp only [overlappingCalls, reorderedCalls, List.mem_cons, List.not_mem_nil, or_false]
    constructor
    · rintro (rfl | rfl)
      · exact .inr (.inr (.inr (.inl rfl)))
      · exact .inr (.inl rfl)
    · rintro (rfl | rfl | rfl | rfl | rfl)
      · cases named
      · exact .inr rfl
      · cases named
      · exact .inl rfl
      · exact .inr rfl

/-- Both ways of asking find the one edge, and one more group leaves nothing. -/
theorem constraints_conjoin_overlapping :
    ∃ scope, ((ofCatalog .fresh).after overlappingSteps).scopes[0]? = some scope ∧
      ((Query.around ⟨1⟩).build overlappingCalls).read scope
          ((ofCatalog .fresh).after overlappingSteps).catalog =
        ((Query.around ⟨1⟩).build reorderedCalls).read scope
          ((ofCatalog .fresh).after overlappingSteps).catalog ∧
      ∃ edges, ((Query.around ⟨1⟩).build overlappingCalls).edges scope
          ((ofCatalog .fresh).after overlappingSteps).catalog = .ok edges ∧
        edges.map Edge.id = [⟨2⟩] ∧
        (((Query.around ⟨1⟩).build overlappingCalls).withLabels [.name "a"]).edges scope
          ((ofCatalog .fresh).after overlappingSteps).catalog = .ok [] := by
  have reachable := Reachable.fresh.after overlappingSteps
  have opened : ((ofCatalog .fresh).after overlappingSteps).scopes[0]? = some _ := rfl
  obtain ⟨-, agree, narrows⟩ := constraints_conjoin
  have same (scope : Scope) := agree scope ((ofCatalog .fresh).after overlappingSteps).catalog
    (.around ⟨1⟩) overlappingCalls reorderedCalls overlappingCalls_agree
  have narrowed := narrows _ reachable _ (List.mem_of_getElem? opened)
    ((Query.around ⟨1⟩).build overlappingCalls) rfl
  obtain ⟨edges, listed, fewer⟩ := narrowed.labelled [.name "a"] (by simp)
  cases listed
  exact ⟨_, opened, same _, _, rfl, rfl, fewer⟩

end PropertyGraph.Workspace
