import PropertyGraph.Proofs.Catalog.Json
import PropertyGraph.Proofs.Workspace.Restoration

/-!
# Saving the shared catalog as text

The text of a snapshot is read back as this very snapshot, so that a catalog
saved as text is restored as one saved by its snapshot is.
-/

namespace PropertyGraph.Workspace

/--
The text of every snapshot is read as the snapshot.  Hence in every reachable
workspace the text of the catalog's snapshot is read as a snapshot that is
accepted, and the catalog restored from it has the same snapshot.
-/
theorem snapshot_reread :
    (∀ snapshot : Snapshot,
      (Json.parse? snapshot.toJson.render).bind Snapshot.ofJson? = some snapshot) ∧
    ∀ workspace : Workspace, workspace.Reachable → ∃ reread restored,
      (Json.parse? workspace.catalog.snapshot.toJson.render).bind Snapshot.ofJson? = some reread ∧
        Catalog.restore reread = .ok restored ∧
        restored.snapshot = workspace.catalog.snapshot := by
  refine ⟨Snapshot.faithful.reread, ?_⟩
  intro workspace reachable
  have accepted := reachable.sound.catalog.restore_snapshot reachable.hasStandardLabel
  exact ⟨_, _, Snapshot.faithful.reread _, accepted, rfl⟩

/-- A snapshot with the greatest id, a name of escaped characters and an empty name. -/
def escapedSnapshot : Snapshot :=
  ⟨[⟨⟨18446744073709551615⟩, "\"\\\n\x01é", .dateTime, .set⟩], [⟨⟨7⟩, ""⟩], []⟩

example : escapedSnapshot.toJson.render =
    "\x7b\"property_keys\":[\x7b\"id\":18446744073709551615,\"name\":\"\\\"\\\\\\n\\u0001é\"," ++
      "\"data_type\":\"DateTime\",\"cardinality\":\"Set\"\x7d]," ++
      "\"edge_labels\":[\x7b\"id\":7,\"name\":\"\"\x7d],\"vertex_labels\":[]\x7d" := by
  decide +kernel

/-- The snapshot is read back, though no catalog has it, and so is one that a catalog has. -/
theorem snapshot_reread_escaped :
    (Json.parse? escapedSnapshot.toJson.render).bind Snapshot.ofJson? = some escapedSnapshot ∧
      Catalog.restore escapedSnapshot =
        .error (.config (.idOutOfRange .propertyKey .last)) ∧
      ∃ reread restored,
        (Json.parse?
            ((ofCatalog farCatalog).after labellingSteps).catalog.snapshot.toJson.render).bind
          Snapshot.ofJson? = some reread ∧
          Catalog.restore reread = .ok restored ∧
          restored.snapshot.propertyKeys = farSnapshot.propertyKeys := by
  have accepted : Catalog.restore farSnapshot = .ok farCatalog := by decide
  obtain ⟨reread, restored, read, restores, same⟩ :=
    snapshot_reread.2 _ ((Reachable.restored accepted).after labellingSteps)
  refine ⟨snapshot_reread.1 escapedSnapshot, by decide, reread, restored, read, restores, ?_⟩
  rw [same]
  decide

end PropertyGraph.Workspace
