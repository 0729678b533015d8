import PropertyGraph.Proofs.Catalog.View
import PropertyGraph.Proofs.Scope.Resolution
import PropertyGraph.Proofs.Workspace.Interleaving

/-!
# The shared catalog only grows

In every state of shared use the readings of the catalog agree, and whatever
is done next, to it or to any scope over it, keeps its descriptors as they are.
Reading does not change it, and a scope without automatic schemas does not
either, once it is open.
-/

namespace PropertyGraph.Workspace

/-- A scope that stays open keeps its configuration. -/
theorem Sound.config_after {workspace : Workspace} {position : Nat} {scope : Scope}
    (sound : workspace.Sound) (opened : workspace.scopes[position]? = some scope)
    (steps : List Step) :
    ∃ last, (workspace.after steps).scopes[position]? = some last ∧
      last.config = scope.config :=
  sound.run (fun _ => True) (fun earlier later => later.config = earlier.config)
    (fun _ => rfl) (fun earlier later => later.trans earlier)
    (fun scopeSound catalogSound _ => scopeSound.serve_config catalogSound _) opened
    fun _ _ => trivial

/-- Without automatic schemas a scope leaves the catalog as it is. -/
theorem Sound.catalog_serve_strict {workspace : Workspace} {position : Nat} {scope : Scope}
    (sound : workspace.Sound) (opened : workspace.scopes[position]? = some scope)
    (strict : scope.config.autoSchema = false) (request : Scope.Request) :
    (workspace.serve (.scope position request)).2.catalog = workspace.catalog := by
  rw [serve_scope opened]
  exact ((sound.scopeAt opened).serve_resolves sound.catalog request).strict strict

/-- A scope is opened at the position that is answered, with the configuration asked for. -/
theorem opened_of_start {workspace : Workspace} {config : Config} {position : Nat}
    (answered : (workspace.serve (.start config)).1 = .start (.ok position)) :
    ∃ scope, (workspace.serve (.start config)).2.scopes[position]? = some scope ∧
      scope.config = config := by
  cases started : Scope.start config workspace.catalog with
  | error error =>
      simp only [serve, started] at answered
      cases answered
  | ok result =>
      obtain ⟨scope, grown⟩ := result
      simp only [serve, started] at answered ⊢
      cases answered
      exact ⟨scope, List.getElem?_concat_length, Scope.start_config started⟩

/--
In every reachable workspace and for each kind of descriptors: the lookups by
name and by id are inverse to each other, and all readings of the catalog
describe the same descriptors, in ascending order of ids.  Every descriptor is
kept unchanged by any further steps.  What only reads leaves the workspace as
it is, and a scope opened without automatic schemas leaves the catalog as it is.
-/
theorem catalog_appends {workspace : Workspace} (reachable : workspace.Reachable)
    (kind : Kind) :
    workspace.catalog.ViewsAgree kind ∧ workspace.catalog.TablesAgree kind ∧
      (∀ steps, workspace.catalog.Keeps (workspace.after steps).catalog kind) ∧
      (∀ request : Catalog.Request, request.reads = true →
        (workspace.serve (.catalog request)).2 = workspace) ∧
      (∀ position query, (workspace.call position (.query query)).2 = workspace) ∧
      ∀ (config : Config) (position : Nat), config.autoSchema = false →
        (workspace.serve (.start config)).1 = .start (.ok position) →
          ∀ (steps : List Step) (request : Scope.Request),
            (workspace.after (.start config :: (steps ++ [.scope position request]))).catalog =
              (workspace.after (.start config :: steps)).catalog := by
  have sound := reachable.sound
  refine ⟨sound.catalog.views_agree kind, sound.catalog.tables_agree kind, ?_, ?_, ?_, ?_⟩
  · intro steps
    obtain ⟨leads, -⟩ := sound.after steps
    exact leads.grows.keeps sound.catalog leads.sound kind
  · intro request reads
    simp only [serve, Catalog.serve_reads reads]
  · intro position query
    simp only [call]
    split
    next => rfl
    next => rfl
  · intro config position strict answered steps request
    obtain ⟨scope, opened, configured⟩ := opened_of_start answered
    have openedSound := (sound.serve (.start config)).2
    obtain ⟨last, reached, same⟩ := openedSound.config_after opened steps
    have lastStrict : last.config.autoSchema = false := by rw [same, configured, strict]
    change ((workspace.serve (.start config)).2.after (steps ++ [_])).catalog = _
    rw [after_singleton]
    exact (openedSound.after steps).2.catalog_serve_strict reached lastStrict request

/-- A key is defined, and a scope creates an edge label before it rolls back. -/
def sharedSteps : List Step :=
  [.catalog (.definePropertyKey "age" .integer .single), .start .standard,
    .scope 0 .addVertex, .scope 0 (.addEdge ⟨1⟩ "likes" ⟨1⟩)]

/-- The label stays after the rollback, and a strict scope cannot add another one. -/
theorem catalog_appends_shared :
    ((ofCatalog .fresh).after (sharedSteps ++ [.scope 0 .rollback])).catalog.lookup? .edgeLabel
        "likes" = some (.edgeLabel ⟨⟨0⟩, "likes"⟩) ∧
      ((ofCatalog .fresh).after (sharedSteps ++ [.start .strict, .scope 1 .addVertex,
        .scope 1 (.addEdge ⟨1⟩ "hates" ⟨1⟩)])).catalog.names .edgeLabel = ["likes"] := by
  have reachable := Reachable.fresh.after sharedSteps
  obtain ⟨-, -, keeps, -, -, strict⟩ := catalog_appends reachable .edgeLabel
  constructor
  · rw [after_append]
    exact (keeps [.scope 0 .rollback]).lookup? "likes" _ rfl
  · rw [after_append]
    exact (congrArg (fun catalog => catalog.names .edgeLabel)
      (strict .strict 1 rfl rfl [.scope 1 .addVertex] (.addEdge ⟨1⟩ "hates" ⟨1⟩))).trans rfl

end PropertyGraph.Workspace
