import PropertyGraph.Proofs.Scope.Response
import PropertyGraph.Proofs.Workspace.Run
import PropertyGraph.Scope.Reading

/-!
# Refused requests

Every check of a request comes before its first change.  So a request that
fails leaves all scopes as they were, each with its vertices, relations, marks,
counters, next numbers and last commit; and it fails in the listed cases only.
-/

namespace PropertyGraph.Workspace

/-- A step keeps all scopes if its request fails. -/
theorem scopes_serve_failed {workspace : Workspace} (sound : workspace.Sound)
    {position : Nat} {scope : Scope} (opened : workspace.scopes[position]? = some scope)
    {request : Scope.Request} {failure : Failure}
    (failed : (scope.serve workspace.catalog request).result = .error failure) :
    (workspace.serve (.scope position request)).2.scopes = workspace.scopes := by
  obtain ⟨error, grown, -, refusal⟩ :=
    (sound.scopeAt opened).refusal_of_failed sound.catalog failed
  rw [serve_scope opened, refusal.serve sound.catalog]
  obtain ⟨bound, same⟩ := List.getElem?_eq_some_iff.1 opened
  subst same
  exact List.set_getElem_self bound

/--
In every reachable workspace a request to a scope fails exactly for the listed
refusals, with their errors, and then every scope is as it was before.  A value
that the key of the request does not accept is refused, whatever the key holds.
-/
theorem refusal_keeps_scopes {workspace : Workspace} (reachable : workspace.Reachable)
    {position : Nat} {scope : Scope} (opened : workspace.scopes[position]? = some scope) :
    (∀ request failure, (scope.serve workspace.catalog request).result = .error failure ↔
        ∃ error grown, failure = .error error ∧
          scope.Refusal workspace.catalog request error grown) ∧
      (∀ request failure, (scope.serve workspace.catalog request).result = .error failure →
        (workspace.serve (.scope position request)).2.scopes = workspace.scopes) ∧
      ∀ request owner key value grown,
        scope.Stores workspace.catalog request owner key value grown →
          scope.containsVertex owner = true → key.dataType.accepts value = false →
            (scope.serve workspace.catalog request).result =
                .error (.error (.schemaMismatch key.name key.dataType value.typeName)) ∧
              (workspace.serve (.scope position request)).2.scopes = workspace.scopes := by
  have sound := reachable.sound
  have scopeSound := sound.scopeAt opened
  refine ⟨?_, fun request failure => scopes_serve_failed sound opened, ?_⟩
  · intro request failure
    constructor
    · exact scopeSound.refusal_of_failed sound.catalog
    · rintro ⟨error, grown, rfl, refusal⟩
      rw [refusal.serve sound.catalog]
      rfl
  · intro request owner key value grown stores live rejected
    have refusal : scope.Refusal workspace.catalog request _ grown :=
      .valueRejected (Scope.missing?_owner.2 live) stores rejected
    have failed : (scope.serve workspace.catalog request).result =
        .error (.error (.schemaMismatch key.name key.dataType value.typeName)) := by
      rw [refusal.serve sound.catalog]
      rfl
    exact ⟨failed, scopes_serve_failed sound opened failed⟩

def agedSteps : List Step :=
  [.catalog (.definePropertyKey "age" .integer .single), .start .standard, .scope 0 .addVertex,
    .scope 0 (.addProperty ⟨1⟩ "age" (.integer 30))]

/-- A text is refused under the key, and the vertex still holds the integer. -/
theorem refusal_keeps_scopes_aged :
    ∃ scope, ((ofCatalog .fresh).after agedSteps).scopes[0]? = some scope ∧
      (scope.serve ((ofCatalog .fresh).after agedSteps).catalog
        (.addProperty ⟨1⟩ "age" (.string "old"))).result =
          .error (.error (.schemaMismatch "age" .integer "String")) ∧
      (((ofCatalog .fresh).after agedSteps).serve
        (.scope 0 (.addProperty ⟨1⟩ "age" (.string "old")))).2.scopes[0]? = some scope ∧
      scope.value? ((ofCatalog .fresh).after agedSteps).catalog ⟨1⟩ "age" =
        .ok (some (.integer 30)) := by
  have reachable := Reachable.fresh.after agedSteps
  obtain ⟨-, -, rejected⟩ := refusal_keeps_scopes reachable
    (rfl : ((ofCatalog .fresh).after agedSteps).scopes[0]? = some _)
  obtain ⟨failed, kept⟩ := rejected (.addProperty ⟨1⟩ "age" (.string "old")) ⟨1⟩
    ⟨⟨0⟩, "age", .integer, .single⟩ (.string "old") _ (.named rfl) rfl rfl
  refine ⟨_, rfl, failed, ?_, rfl⟩
  rw [kept]
  rfl

end PropertyGraph.Workspace
