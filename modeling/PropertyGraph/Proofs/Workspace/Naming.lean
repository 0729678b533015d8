import PropertyGraph.Proofs.Catalog.Naming
import PropertyGraph.Proofs.Scope.Resolution
import PropertyGraph.Proofs.Workspace.Run

/-!
# Where empty names come from

No step of shared use creates a descriptor under the empty name.  A snapshot
may bring one, and restoring accepts it: the descriptors of that name in any
later catalog are those of the snapshot.
-/

namespace PropertyGraph.Workspace

namespace Sound

variable {workspace : Workspace}

/-- What a step adds to the catalog has a name. -/
theorem serve_addsNamed (sound : workspace.Sound) (step : Step) :
    workspace.catalog.AddsNamed (workspace.serve step).2.catalog := by
  cases step with
  | catalog request => exact .serve workspace.catalog request
  | start config =>
      simp only [Workspace.serve]
      split
      next => exact .refl workspace.catalog
      next opened grown started =>
        obtain ⟨⟨label, after⟩, resolved, same⟩ := map_eq_ok_iff.1 started
        cases same
        exact .resolves (.vertexLabel resolved)
  | scope position request =>
      cases opened : workspace.scopes[position]? with
      | none =>
          simp only [Workspace.serve, opened]
          exact .refl workspace.catalog
      | some scope =>
          rw [serve_scope opened]
          exact .resolves ((sound.scopeAt opened).serve_resolves sound.catalog request)

theorem after_addsNamed (sound : workspace.Sound) (steps : List Step) :
    workspace.catalog.AddsNamed (workspace.after steps).catalog := by
  induction steps generalizing workspace with
  | nil => exact .refl workspace.catalog
  | cons step rest ih => exact (sound.serve_addsNamed step).trans (ih (sound.serve step).2)

end Sound

/-- A catalog to begin with, and its snapshot: none for the fresh one, or the restored one. -/
inductive Begins : Snapshot → Catalog → Prop where
  | fresh : Begins ⟨[], [], []⟩ .fresh
  | restored {snapshot : Snapshot} {catalog : Catalog}
      (accepted : Catalog.restore snapshot = .ok catalog) : Begins snapshot catalog

/-- The fresh catalog too is a restored one, from the snapshot without descriptors. -/
theorem Begins.accepted {snapshot : Snapshot} {catalog : Catalog}
    (begins : Begins snapshot catalog) : Catalog.restore snapshot = .ok catalog := by
  cases begins with
  | fresh => decide
  | restored accepted => exact accepted

/--
Whatever is done over a fresh or restored catalog, its descriptors of the empty
name are those of the snapshot.  Where the snapshot has none, resolving the
empty name fails, and elsewhere it answers the snapshot's descriptor; no policy
creates one, and defining one is refused.
-/
theorem empty_names_restored {snapshot : Snapshot} {catalog : Catalog}
    (begins : Begins snapshot catalog) (steps : List Step) (kind : Kind) :
    ((ofCatalog catalog).after steps).catalog.EmptyNamesFrom snapshot kind := by
  have sound := (Reachable.restored begins.accepted).sound
  obtain ⟨leads, -⟩ := sound.after steps
  exact leads.emptyNamesFrom (sound.after_addsNamed steps) begins.accepted kind

def namelessSnapshot : Snapshot := ⟨[], [⟨⟨0⟩, ""⟩], []⟩

def namelessCatalog : Catalog := ⟨⟨[]⟩, ⟨[⟨⟨0⟩, ""⟩]⟩, ⟨[⟨⟨0⟩, "vertex"⟩]⟩⟩

def namelessSteps : List Step :=
  [.start .standard, .scope 0 .addVertex, .scope 0 (.addEdge ⟨1⟩ "" ⟨1⟩),
    .scope 0 (.addVertexWithLabel "")]

/-- The restored edge label is resolved, and no vertex label of the empty name is created. -/
theorem empty_names_restored_label :
    ((ofCatalog namelessCatalog).after namelessSteps).catalog.resolveOrCreate .edgeLabel
        .strict "" =
          .ok (.edgeLabel ⟨⟨0⟩, ""⟩, ((ofCatalog namelessCatalog).after namelessSteps).catalog) ∧
      ((ofCatalog namelessCatalog).after namelessSteps).catalog.resolveOrCreate .vertexLabel
        .standard "" = .error (.unknownType .vertexLabel "") := by
  have accepted : Catalog.restore namelessSnapshot = .ok namelessCatalog := by decide
  have edgeLabels := empty_names_restored (.restored accepted) namelessSteps .edgeLabel
  have vertexLabels := empty_names_restored (.restored accepted) namelessSteps .vertexLabel
  constructor
  · exact edgeLabels.resolved (.edgeLabel ⟨⟨0⟩, ""⟩) List.mem_cons_self rfl .strict
  · refine vertexLabels.unknown ?_ .standard
    intro descriptor listed
    cases listed

/-- A catalog can hold a descriptor of the empty name, which then resolves. -/
theorem empty_name_held :
    ¬ ∀ (snapshot : Snapshot) (catalog : Catalog), Catalog.restore snapshot = .ok catalog →
      ∀ (steps : List Step) (kind : Kind),
        (∀ descriptor ∈ ((ofCatalog catalog).after steps).catalog.snapshot.descriptors kind,
            descriptor.name ≠ "") ∧
          ((ofCatalog catalog).after steps).catalog.resolveOrCreate kind .strict "" =
            .error (.unknownType kind "") := by
  intro never
  have restored : Catalog.restore namelessSnapshot = .ok namelessCatalog := by decide
  obtain ⟨named, -⟩ := never _ _ restored [] .edgeLabel
  exact absurd rfl (named (.edgeLabel ⟨⟨0⟩, ""⟩) List.mem_cons_self)

end PropertyGraph.Workspace
