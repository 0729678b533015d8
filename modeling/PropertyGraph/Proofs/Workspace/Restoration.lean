import PropertyGraph.Proofs.Catalog.Restoration
import PropertyGraph.Proofs.Workspace.Run

/-!
# Saving and restoring the shared catalog

Whatever has been done with a catalog, restoring its snapshot gives a copy that
nobody can tell from it: names, ids and the next ids are the same, so every
further sequence of requests is answered the same, refusals included.
-/

namespace PropertyGraph.Workspace

/-- The catalog of every reachable workspace has the standard vertex label. -/
theorem Reachable.hasStandardLabel {workspace : Workspace} (reachable : workspace.Reachable) :
    workspace.catalog.HasStandardLabel := by
  induction reachable with
  | fresh => exact .fresh
  | restored accepted => exact .restore accepted
  | step before step ih =>
      obtain ⟨leads, -⟩ := before.sound.serve step
      exact ih.grow leads.grows before.sound.catalog leads.sound

/--
In every reachable workspace the snapshot of the catalog is accepted, and the
copy restored from it has this snapshot again and answers every sequence of
requests as the catalog does.  The counters from which new ids are taken need
not be saved: whichever insertions built the catalog, they are at the next ids
of the copy.
-/
theorem snapshot_restores {workspace : Workspace} (reachable : workspace.Reachable) :
    ∃ copy, Catalog.restore workspace.catalog.snapshot = .ok copy ∧
      copy.snapshot = workspace.catalog.snapshot ∧
      (∀ requests, (copy.serveAll requests).1 = (workspace.catalog.serveAll requests).1 ∧
        (copy.serveAll requests).2.snapshot =
          (workspace.catalog.serveAll requests).2.snapshot) ∧
      (∀ next, workspace.catalog.propertyKeys.Counts next ↔
        next = copy.propertyKeys.nextId.number) ∧
      (∀ next, workspace.catalog.edgeLabels.Counts next ↔
        next = copy.edgeLabels.nextId.number) ∧
      (∀ next, workspace.catalog.vertexLabels.Counts next ↔
        next = copy.vertexLabels.nextId.number) := by
  have sound := reachable.sound.catalog
  refine ⟨workspace.catalog, sound.restore_snapshot reachable.hasStandardLabel, rfl, ?_, ?_, ?_, ?_⟩
  · intro requests
    exact ⟨rfl, rfl⟩
  · exact fun _ => sound.propertyKeys.counts_iff
  · exact fun _ => sound.edgeLabels.counts_iff
  · exact fun _ => sound.vertexLabels.counts_iff

/-- A snapshot with the greatest id that a key can have. -/
def farSnapshot : Snapshot :=
  ⟨[⟨⟨18446744073709551614⟩, "far", .integer, .list⟩], [⟨⟨7⟩, "likes"⟩], []⟩

def farCatalog : Catalog :=
  ⟨⟨farSnapshot.propertyKeys⟩, ⟨farSnapshot.edgeLabels⟩, ⟨[⟨⟨0⟩, "vertex"⟩]⟩⟩

def labellingSteps : List Step :=
  [.start .standard, .scope 0 .addVertex, .scope 0 (.addEdge ⟨1⟩ "knows" ⟨1⟩), .scope 0 .rollback,
    .catalog (.defineEdgeLabel "owns")]

/-- The copy goes on with the ids behind the gap, and it too has no id left for a key. -/
theorem snapshot_restores_far :
    ∃ copy, Catalog.restore ((ofCatalog farCatalog).after labellingSteps).catalog.snapshot =
        .ok copy ∧
      (copy.serveAll [.defineEdgeLabel "sees",
          .definePropertyKey "near" .integer .single]).1 =
        [.ok (.descriptor (.edgeLabel ⟨⟨10⟩, "sees"⟩)),
          .error (.config (.idOutOfRange .propertyKey .last))] := by
  have accepted : Catalog.restore farSnapshot = .ok farCatalog := by decide
  obtain ⟨copy, restored, -, answers, -⟩ :=
    snapshot_restores ((Reachable.restored accepted).after labellingSteps)
  refine ⟨copy, restored, ?_⟩
  rw [(answers _).1]
  decide

end PropertyGraph.Workspace
