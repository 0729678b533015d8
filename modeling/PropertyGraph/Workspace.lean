import PropertyGraph.Catalog.Request
import PropertyGraph.Query
import PropertyGraph.Scope.Request

/-!
# Workspaces

A workspace is a catalog with the scopes opened over it.  Its steps are the
requests to the catalog, the opening of a scope, and the requests to one of
the scopes; every state of shared use is reached by such steps.
-/

namespace PropertyGraph

/-- A catalog and the scopes that share it, in the order of their opening. -/
structure Workspace where
  catalog : Catalog
  scopes : List Scope

namespace Workspace

inductive Step where
  | catalog (request : Catalog.Request)
  | start (config : Config)
  | scope (position : Nat) (request : Scope.Request)

inductive Answer where
  | catalog (answer : Except GraphError Catalog.Answer)
  | start (answer : Except GraphError Nat)
  | scope (answer : Except Failure Scope.Answer)
  | noScope

def ofCatalog (catalog : Catalog) : Workspace := ⟨catalog, []⟩

def serve (workspace : Workspace) : Step → Answer × Workspace
  | .catalog request =>
    let served := workspace.catalog.serve request
    (.catalog served.answer, { workspace with catalog := served.catalog })
  | .start config =>
    match Scope.start config workspace.catalog with
    | .error error => (.start (.error error), workspace)
    | .ok (scope, grown) =>
      (.start (.ok workspace.scopes.length), ⟨grown, workspace.scopes ++ [scope]⟩)
  | .scope position request =>
    match workspace.scopes[position]? with
    | none => (.noScope, workspace)
    | some scope =>
      let outcome := scope.serve workspace.catalog request
      (.scope outcome.result, ⟨outcome.catalog, workspace.scopes.set position outcome.scope⟩)

def serveAll (workspace : Workspace) : List Step → List Answer × Workspace
  | [] => ([], workspace)
  | step :: rest =>
    let (answer, changed) := workspace.serve step
    let (answers, last) := changed.serveAll rest
    (answer :: answers, last)

end Workspace

end PropertyGraph
