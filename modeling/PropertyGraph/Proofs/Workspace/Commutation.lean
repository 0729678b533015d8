import PropertyGraph.Proofs.Scope.Removal
import PropertyGraph.Proofs.Workspace.Run

/-!
# Removals commute

What a removal answers depends on the one relation it asks for, and a removal
leaves all others.  So removals of different relations answer the same in every
order, and lead to the same scope.
-/

namespace PropertyGraph.Workspace

variable {workspace : Workspace} {position : Nat} {scope : Scope}

def Step.removal (position : Nat) (id : RelationId) : Step := .scope position (.removeRelation id)

/--
Removals of different relations answer as if each of them were the first, since
each leaves what the other ids refer to.
-/
theorem Sound.serveAll_removals (sound : workspace.Sound)
    (opened : workspace.scopes[position]? = some scope) {ids : List RelationId}
    (distinct : ids.Nodup) :
    workspace.serveAll (ids.map (Step.removal position)) =
      (ids.map fun id => .scope (scope.removal id),
        ⟨workspace.catalog, workspace.scopes.set position (scope.without ids)⟩) := by
  induction ids generalizing workspace scope with
  | nil =>
      have unchanged := List.set_getElem_self (List.getElem?_eq_some_iff.1 opened).1
      rw [(List.getElem?_eq_some_iff.1 opened).2] at unchanged
      change ([], workspace) =
        ([], Workspace.mk workspace.catalog (workspace.scopes.set position scope))
      rw [unchanged]
  | cons id rest ih =>
      obtain ⟨absent, restDistinct⟩ := List.nodup_cons.1 distinct
      have served : workspace.serve (.removal position id) = (.scope (scope.removal id),
          ⟨workspace.catalog, workspace.scopes.set position (scope.without [id])⟩) := by
        rw [Step.removal, serve_scope opened, (sound.scopeAt opened).serve_removal]
      have nextSound := (sound.serve (.removal position id)).2
      rw [served] at nextSound
      have nextOpened : (workspace.scopes.set position (scope.without [id]))[position]? =
          some (scope.without [id]) :=
        List.getElem?_set_self (List.getElem?_eq_some_iff.1 opened).1
      have answers : rest.map (fun other => Answer.scope ((scope.without [id]).removal other)) =
          rest.map fun other => .scope (scope.removal other) := by
        apply List.map_congr_left
        intro other member
        have apart : other ≠ id := fun same => absent (same ▸ member)
        rw [(sound.scopeAt opened).removal_without apart]
      have reached : (scope.without [id]).without rest = scope.without (id :: rest) :=
        congrArg (fun arena => { scope with arena := arena })
          (scope.arena.releaseAll_append [id] rest).symm
      simp only [List.map_cons, serveAll, served, ih nextSound nextOpened restDistinct,
        List.set_set, answers, reached]

/-- Removals of different relations answer the same in every order, and lead to one workspace. -/
theorem Sound.removals_perm (sound : workspace.Sound)
    (opened : workspace.scopes[position]? = some scope) {ids others : List RelationId}
    (permuted : ids.Perm others) (distinct : ids.Nodup) :
    ∃ last,
      workspace.serveAll (ids.map (Step.removal position)) =
        (ids.map fun id => .scope (scope.removal id), last) ∧
      workspace.serveAll (others.map (Step.removal position)) =
        (others.map fun id => .scope (scope.removal id), last) := by
  refine ⟨_, sound.serveAll_removals opened distinct, ?_⟩
  have same : scope.without ids = scope.without others :=
    congrArg (fun arena => { scope with arena := arena })
      ((sound.scopeAt opened).arena.releaseAll_perm permuted distinct)
  rw [sound.serveAll_removals opened (permuted.nodup_iff.1 distinct), same]

/--
In every reachable workspace, removing two different relations answers the same
in either order: each removal with the relation itself, or with an error if
there is none.  Both orders lead to the same workspace.
-/
theorem removals_commute {workspace : Workspace} (reachable : workspace.Reachable)
    {position : Nat} {scope : Scope} (opened : workspace.scopes[position]? = some scope)
    {first second : RelationId} (apart : first ≠ second) :
    ∃ last,
      workspace.serveAll
          [.scope position (.removeRelation first), .scope position (.removeRelation second)] =
        ([.scope (scope.removal first), .scope (scope.removal second)], last) ∧
      workspace.serveAll
          [.scope position (.removeRelation second), .scope position (.removeRelation first)] =
        ([.scope (scope.removal second), .scope (scope.removal first)], last) :=
  reachable.sound.removals_perm opened (List.Perm.swap second first []) (by simpa using apart)

/-- A loop, an edge that ends at its vertex, and a property of that vertex. -/
def meetingSteps : List Step :=
  [.start .standard, .scope 0 .addVertex, .scope 0 .addVertex, .scope 0 (.addEdge ⟨1⟩ "a" ⟨1⟩),
    .scope 0 (.addEdge ⟨2⟩ "b" ⟨1⟩), .scope 0 (.addProperty ⟨1⟩ "c" (.integer 7))]

/-- The loop and the edge that shares its vertex are removed in either order. -/
theorem removals_commute_loop :
    ∃ last,
      ((ofCatalog .fresh).after meetingSteps).serveAll
          [.scope 0 (.removeRelation ⟨1⟩), .scope 0 (.removeRelation ⟨2⟩)] =
        ([.scope (.ok (.relation (.edge ⟨⟨1⟩, ⟨⟨0⟩, "a"⟩, ⟨1⟩, ⟨1⟩⟩))),
          .scope (.ok (.relation (.edge ⟨⟨2⟩, ⟨⟨1⟩, "b"⟩, ⟨2⟩, ⟨1⟩⟩)))], last) ∧
      ((ofCatalog .fresh).after meetingSteps).serveAll
          [.scope 0 (.removeRelation ⟨2⟩), .scope 0 (.removeRelation ⟨1⟩)] =
        ([.scope (.ok (.relation (.edge ⟨⟨2⟩, ⟨⟨1⟩, "b"⟩, ⟨2⟩, ⟨1⟩⟩))),
          .scope (.ok (.relation (.edge ⟨⟨1⟩, ⟨⟨0⟩, "a"⟩, ⟨1⟩, ⟨1⟩⟩)))], last) :=
  removals_commute (Reachable.fresh.after meetingSteps)
    (rfl : ((ofCatalog .fresh).after meetingSteps).scopes[0]? = some _) (by decide)

end PropertyGraph.Workspace
