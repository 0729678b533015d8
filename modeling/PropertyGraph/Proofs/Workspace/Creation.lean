import PropertyGraph.Proofs.Catalog.Creation
import PropertyGraph.Proofs.Workspace.Restoration

/-!
# Creation in the shared catalog

Whatever has been done with a catalog, and whichever ids were restored into it,
the names and the largest id of a kind decide how a request to create a
descriptor of the kind ends.
-/

namespace PropertyGraph.Workspace

/--
In every reachable workspace, defining a name and resolving an unknown one are
refused exactly for the listed reasons, and then change nothing; otherwise they
add one descriptor, whose id is the first one behind all others of its kind.  A
known name resolves to its descriptor under every policy.
-/
theorem creation_decided {workspace : Workspace} (reachable : workspace.Reachable) (kind : Kind)
    (name : String) :
    (∀ request make, Catalog.Request.Defines request kind name make →
      workspace.catalog.Creates kind make
        (RefusesDefinition kind (workspace.catalog.names kind) (workspace.catalog.numbers kind)
          name)
        (workspace.catalog.serve request)) ∧
      ∀ policy : Policy,
        (∀ descriptor ∈ workspace.catalog.snapshot.descriptors kind, descriptor.name = name →
          workspace.catalog.serve (.resolveOrCreate kind name policy) =
            ⟨.ok (.descriptor descriptor), workspace.catalog⟩) ∧
        (name ∉ workspace.catalog.names kind →
          workspace.catalog.Creates kind (policy.descriptor kind name)
            (RefusesResolution kind (workspace.catalog.names kind)
              (workspace.catalog.numbers kind) policy.autoCreate name)
            (workspace.catalog.serve (.resolveOrCreate kind name policy))) := by
  have sound := reachable.sound.catalog
  refine ⟨fun _ _ defines => sound.serve_define defines, fun policy => ⟨?_, ?_⟩⟩
  · rintro descriptor known rfl
    exact sound.serve_resolve_known known policy
  · exact fun absent => sound.serve_resolve_unknown absent policy

/-- No id is left for a key, while labels go on behind the gap and known ones resolve. -/
theorem creation_decided_far :
    (farCatalog.serve (.definePropertyKey "near" .integer .single)).answer =
        .error (.config (.idOutOfRange .propertyKey .last)) ∧
      farCatalog.serve (.resolveOrCreate .edgeLabel "likes" .strict) =
        ⟨.ok (.descriptor (.edgeLabel ⟨⟨7⟩, "likes"⟩)), farCatalog⟩ ∧
      ∃ id : SchemaId, id.number = 8 ∧
        (farCatalog.serve (.resolveOrCreate .edgeLabel "sees" .standard)).answer =
          .ok (.descriptor (.edgeLabel ⟨id, "sees"⟩)) := by
  have reachable : (ofCatalog farCatalog).Reachable :=
    .restored (by decide : Catalog.restore farSnapshot = .ok farCatalog)
  refine ⟨?_, ?_, ?_⟩
  · obtain ⟨defining, -⟩ := creation_decided reachable .propertyKey "near"
    exact ((defining _ _ (.propertyKey "near" .integer .single)).refused_iff _).2
      (.exhausted (by decide) (by decide) (by decide))
  · obtain ⟨-, resolving⟩ := creation_decided reachable .edgeLabel "likes"
    exact (resolving .strict).1 (.edgeLabel ⟨⟨7⟩, "likes"⟩) List.mem_cons_self rfl
  · obtain ⟨-, resolving⟩ := creation_decided reachable .edgeLabel "sees"
    have creates := (resolving .standard).2 (by decide)
    obtain ⟨id, answered, gains⟩ := creates.created (by
      rintro error (⟨-, unwanted⟩ | ⟨-, -, -, full⟩)
      · exact absurd unwanted (by decide)
      · exact absurd full (by decide))
    exact ⟨id, gains.number, answered⟩

end PropertyGraph.Workspace
