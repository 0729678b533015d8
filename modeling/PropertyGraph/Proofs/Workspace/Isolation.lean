import PropertyGraph.Proofs.Scope.Rollback
import PropertyGraph.Proofs.Workspace.Run

/-!
# Isolation of reads

What others do with the shared catalog may give a meaning to names and
descriptors that had none.  It takes no meaning away, and it changes no answer:
a descriptor that a scope did not know before is none of those it has stored.
-/

namespace PropertyGraph.Workspace

/--
In every reachable workspace, whatever steps follow that ask nothing of the
scope of a position, the scope is as it was and every read of it answers what it
answered before, for every query.  References resolve to what they resolved to.
-/
theorem reads_unaffected {workspace : Workspace} (reachable : workspace.Reachable)
    {position : Nat} {scope : Scope} (opened : workspace.scopes[position]? = some scope)
    (steps : List Step) (foreign : ∀ request, Step.scope position request ∉ steps) :
    (workspace.after steps).scopes[position]? = some scope ∧
      scope.ReadsAs (workspace.after steps).catalog scope workspace.catalog ∧
      ∀ reference id,
        (workspace.catalog.edgeLabels.resolve? reference = some id →
          (workspace.after steps).catalog.edgeLabels.resolve? reference = some id) ∧
        (workspace.catalog.propertyKeys.resolve? reference = some id →
          (workspace.after steps).catalog.propertyKeys.resolve? reference = some id) := by
  have sound := reachable.sound
  obtain ⟨leads, afterSound⟩ := sound.after steps
  have kept : (workspace.after steps).scopes[position]? = some scope := by
    obtain ⟨last, reached, same⟩ := sound.run (fun _ => False) Eq Eq.refl Eq.trans
      (fun _ _ refused => refused.elim) opened (fun request member => foreign request member)
    rw [reached, same]
  refine ⟨kept, ?_, ?_⟩
  · exact Scope.readsAs (.refl scope.arena) (afterSound.scopeAt kept).arena afterSound.catalog
      (sound.scopeAt opened).arena sound.catalog
  · intro reference id
    exact ⟨leads.grows.edgeLabels.resolve? sound.catalog.edgeLabels leads.sound.edgeLabels,
      leads.grows.propertyKeys.resolve? sound.catalog.propertyKeys leads.sound.propertyKeys⟩

def readerSteps : List Step :=
  [.start .standard, .scope 0 .addVertex, .scope 0 (.addEdge ⟨1⟩ "likes" ⟨1⟩)]

/-- A key is defined, and another scope uses a new label, commits and rolls back. -/
def foreignSteps : List Step :=
  [.catalog (.definePropertyKey "age" .integer .single), .start .standard, .scope 1 .addVertex,
    .scope 1 (.addEdge ⟨1⟩ "knows" ⟨1⟩), .scope 1 .commit, .scope 1 .rollback]

/-- The new label resolves after the foreign steps, and the reader still has no edge under it. -/
theorem reads_unaffected_new_label :
    ∃ scope, (((ofCatalog .fresh).after readerSteps).after foreignSteps).scopes[0]? =
        some scope ∧
      ((ofCatalog .fresh).after readerSteps).catalog.edgeLabels.resolve? (.name "knows") = none ∧
      (((ofCatalog .fresh).after readerSteps).after foreignSteps).catalog.edgeLabels.resolve?
        (.name "knows") = some ⟨1⟩ ∧
      ((Query.around ⟨1⟩).withLabels [.name "knows"]).edgeCount scope
        (((ofCatalog .fresh).after readerSteps).after foreignSteps).catalog = 0 ∧
      ((Query.around ⟨1⟩).withLabels [.name "knows", .name "likes"]).edgeCount scope
        (((ofCatalog .fresh).after readerSteps).after foreignSteps).catalog = 2 := by
  obtain ⟨kept, reads, -⟩ := reads_unaffected (Reachable.fresh.after readerSteps)
    (rfl : ((ofCatalog .fresh).after readerSteps).scopes[0]? = some _)
    foreignSteps (by simp [foreignSteps])
  refine ⟨_, kept, rfl, rfl, ?_, ?_⟩
  · exact (reads.edgeCount _).trans rfl
  · exact (reads.edgeCount _).trans rfl

end PropertyGraph.Workspace
