import PropertyGraph.Proofs.Scope.Failure
import PropertyGraph.Proofs.Workspace.Run

/-!
# Failed requests and the shared catalog

A request that fails leaves the shared catalog as it was, unless it adds a
value that does not fit the key that a new name gets: then exactly this key is
in the catalog afterwards.
-/

namespace PropertyGraph.Workspace

/--
In every reachable workspace a failed request leaves the snapshot of the catalog
as it was exactly if it does not add a misfit; a misfit leaves one new key
behind, with the next id and the type and cardinality of the scope's policy.
-/
theorem failure_keeps_catalog {workspace : Workspace} (reachable : workspace.Reachable)
    {scope : Scope} (opened : scope ∈ workspace.scopes) (request : Scope.Request)
    {failure : Failure}
    (failed : (scope.serve workspace.catalog request).result = .error failure) :
    ((scope.serve workspace.catalog request).catalog.snapshot = workspace.catalog.snapshot ↔
        ¬ ∃ owner name value, request = .addProperty owner name value ∧
          scope.Misfit workspace.catalog owner name value) ∧
      ∀ owner name value, request = .addProperty owner name value →
        scope.Misfit workspace.catalog owner name value →
          (scope.serve workspace.catalog request).catalog.snapshot =
            { workspace.catalog.snapshot with
              propertyKeys := workspace.catalog.snapshot.propertyKeys ++
                [⟨workspace.catalog.propertyKeys.nextId, name, scope.config.dataType,
                  scope.config.cardinality⟩] } := by
  have sound := reachable.sound
  have misfits : ∀ owner name value, request = .addProperty owner name value →
      scope.Misfit workspace.catalog owner name value →
        (scope.serve workspace.catalog request).catalog =
          scope.withNewKey workspace.catalog name := by
    rintro owner name value rfl misfit
    rw [misfit.serve sound.catalog]
  refine ⟨⟨?_, ?_⟩, ?_⟩
  · rintro same ⟨owner, name, value, asked, misfit⟩
    rw [misfits owner name value asked misfit] at same
    have longer := congrArg (fun snapshot => snapshot.propertyKeys.length) same
    simp [Catalog.snapshot, Scope.withNewKey, Directory.append] at longer
  · intro fitting
    rcases ((sound.scopes scope opened).serve_failed sound.catalog failed).2 with same | misfit
    · rw [same]
    · exact absurd misfit fitting
  · intro owner name value asked misfit
    rw [misfits owner name value asked misfit]
    rfl

def soleVertexSteps : List Step := [.start .standard, .scope 0 .addVertex]

/-- An edge to a missing vertex creates no label, a null value under a new name creates a key. -/
theorem failure_keeps_catalog_sole_vertex :
    ∃ scope ∈ ((ofCatalog .fresh).after soleVertexSteps).scopes,
      (scope.serve ((ofCatalog .fresh).after soleVertexSteps).catalog
        (.addEdge ⟨1⟩ "knows" ⟨42⟩)).catalog.snapshot = ⟨[], [], [⟨⟨0⟩, "vertex"⟩]⟩ ∧
      (scope.serve ((ofCatalog .fresh).after soleVertexSteps).catalog
        (.addProperty ⟨1⟩ "x" .null)).catalog.snapshot =
          ⟨[⟨⟨0⟩, "x", .object, .single⟩], [], [⟨⟨0⟩, "vertex"⟩]⟩ := by
  have reachable := Reachable.fresh.after soleVertexSteps
  have opened := List.mem_of_getElem? (l := ((ofCatalog .fresh).after soleVertexSteps).scopes)
    (i := 0) rfl
  obtain ⟨kept, -⟩ := failure_keeps_catalog reachable opened (.addEdge ⟨1⟩ "knows" ⟨42⟩) rfl
  obtain ⟨-, created⟩ :=
    failure_keeps_catalog reachable opened (.addProperty ⟨1⟩ "x" .null) rfl
  refine ⟨_, opened, kept.2 ?_, created ⟨1⟩ "x" .null rfl ?_⟩
  · rintro ⟨owner, name, value, asked, -⟩
    cases asked
  · exact ⟨rfl, rfl, by decide, rfl, by decide, rfl⟩

/-- A failed request can leave a key in the catalog that was not there before. -/
theorem failure_creates_key :
    ¬ ∀ workspace : Workspace, workspace.Reachable → ∀ scope ∈ workspace.scopes,
      ∀ request failure, (scope.serve workspace.catalog request).result = .error failure →
        (scope.serve workspace.catalog request).catalog.snapshot =
          workspace.catalog.snapshot := by
  intro keeps
  have same := keeps _ (Reachable.fresh.after soleVertexSteps) _
    (List.mem_of_getElem? (l := ((ofCatalog .fresh).after soleVertexSteps).scopes) (i := 0) rfl)
    (.addProperty ⟨1⟩ "x" .null) _ rfl
  exact absurd (congrArg (fun snapshot => snapshot.propertyKeys.length) same) (by decide)

end PropertyGraph.Workspace
