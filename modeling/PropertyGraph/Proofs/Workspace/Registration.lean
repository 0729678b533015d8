import PropertyGraph.Proofs.Arena.Registration
import PropertyGraph.Proofs.Workspace.Run

/-!
# Stored descriptors are the catalog's own

However the scopes over a catalog take turns with each other and with requests
to the catalog, what each of them stores carries descriptors that the catalog
finds unchanged.
-/

namespace PropertyGraph.Workspace

/--
In every reachable workspace each scope stores registered descriptors only, and
so does what rolling back would restore; the default label is registered too.
-/
theorem stored_descriptors_registered {workspace : Workspace} (reachable : workspace.Reachable)
    {scope : Scope} (opened : scope ∈ workspace.scopes) :
    scope.arena.Registered workspace.catalog ∧ scope.base.Registered workspace.catalog ∧
      workspace.catalog.Registers (.vertexLabel scope.defaultLabel) := by
  have sound := reachable.sound.scopes scope opened
  have catalogSound := reachable.sound.catalog
  exact ⟨sound.arena.registered catalogSound, sound.base.registered catalogSound,
    catalogSound.registers (List.mem_map_of_mem sound.defaultLabel_known)⟩

/-- A snapshot in which an edge label, a property key and a vertex label share an id. -/
def sharedIds : Snapshot :=
  ⟨[⟨⟨5⟩, "age", .integer, .single⟩], [⟨⟨5⟩, "likes"⟩], [⟨⟨5⟩, "person"⟩, ⟨⟨9⟩, "vertex"⟩]⟩

def sharedCatalog : Catalog :=
  ⟨⟨sharedIds.propertyKeys⟩, ⟨sharedIds.edgeLabels⟩, ⟨sharedIds.vertexLabels⟩⟩

/--
A key is stored by a descriptor that claims another type, a foreign edge label
is refused, and what a second scope adds under a new label is rolled back.
-/
def sharingSteps : List Step :=
  [.start .standard, .start .standard, .scope 0 (.addVertexWithLabel "person"),
    .scope 0 (.addPropertyWithKey ⟨1⟩ ⟨⟨5⟩, "age", .string, .list⟩ (.integer 30)),
    .scope 0 (.addEdgeWithLabel ⟨1⟩ ⟨⟨5⟩, "hates"⟩ ⟨1⟩), .scope 1 .addVertex,
    .scope 1 (.addEdge ⟨1⟩ "hates" ⟨1⟩), .scope 1 .rollback,
    .scope 0 (.addEdge ⟨1⟩ "hates" ⟨1⟩)]

/-- The edge has the label that the second scope created, and the key is the catalog's own. -/
theorem stored_descriptors_registered_shared :
    ∃ scope, ((ofCatalog sharedCatalog).after sharingSteps).scopes[0]? = some scope ∧
      scope.arena.liveEdges.map Edge.label = [⟨⟨6⟩, "hates"⟩] ∧
      ((ofCatalog sharedCatalog).after sharingSteps).catalog.Registers
        (.edgeLabel ⟨⟨6⟩, "hates"⟩) ∧
      ((ofCatalog sharedCatalog).after sharingSteps).catalog.Registers
        (.propertyKey ⟨⟨5⟩, "age", .integer, .single⟩) := by
  have accepted : Catalog.restore sharedIds = .ok sharedCatalog := by decide
  have reachable := (Reachable.restored accepted).after sharingSteps
  have opened : ((ofCatalog sharedCatalog).after sharingSteps).scopes[0]? = some _ := rfl
  have registered := (stored_descriptors_registered reachable (List.mem_of_getElem? opened)).1
  refine ⟨_, opened, rfl, ?_, ?_⟩
  · exact registered.edge ⟨2⟩ ⟨⟨2⟩, ⟨⟨6⟩, "hates"⟩, ⟨1⟩, ⟨1⟩⟩ rfl
  · exact registered.property ⟨1⟩ ⟨⟨1⟩, ⟨⟨5⟩, "age", .integer, .single⟩, ⟨1⟩, .integer 30⟩ rfl

end PropertyGraph.Workspace
