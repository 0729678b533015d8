import PropertyGraph.Proofs.Scope.Soundness
import PropertyGraph.Workspace

/-!
# Runs of a workspace

A workspace is reachable if steps lead to it from a fresh or a restored
catalog.  Every reachable workspace is sound.  A step concerns one scope at
most, so what a run does to the scope of a position is what the requests to
that position do to it, over catalogs that only grow in between.
-/

namespace PropertyGraph.Workspace

/-- What a step asks of the scope of a position. -/
def Step.requestTo? (position : Nat) : Step → Option Scope.Request
  | .scope place request => if place = position then some request else none
  | .catalog _ => none
  | .start _ => none

theorem Step.requestTo?_eq_some_iff {position : Nat} {step : Step} {request : Scope.Request} :
    step.requestTo? position = some request ↔ step = .scope position request := by
  cases step with
  | catalog asked => simp [requestTo?]
  | start config => simp [requestTo?]
  | scope place asked =>
      by_cases here : place = position
      · simp [requestTo?, here]
      · simp [requestTo?, here]

def after (workspace : Workspace) (steps : List Step) : Workspace := (workspace.serveAll steps).2

theorem after_append (workspace : Workspace) (first second : List Step) :
    workspace.after (first ++ second) = (workspace.after first).after second := by
  induction first generalizing workspace with
  | nil => rfl
  | cons step rest ih => exact ih (workspace.serve step).2

theorem after_singleton (workspace : Workspace) (steps : List Step) (step : Step) :
    workspace.after (steps ++ [step]) = ((workspace.after steps).serve step).2 :=
  workspace.after_append steps [step]

/-- The workspaces that steps lead to from a fresh or a restored catalog. -/
inductive Reachable : Workspace → Prop where
  | fresh : Reachable (ofCatalog .fresh)
  | restored {snapshot : Snapshot} {catalog : Catalog}
      (accepted : Catalog.restore snapshot = .ok catalog) : Reachable (ofCatalog catalog)
  | step {workspace : Workspace} (reachable : Reachable workspace) (step : Step) :
      Reachable (workspace.serve step).2

theorem Reachable.after {workspace : Workspace} (reachable : workspace.Reachable)
    (steps : List Step) : (workspace.after steps).Reachable := by
  induction steps generalizing workspace with
  | nil => exact reachable
  | cons step rest ih => exact ih (reachable.step step)

/-- The catalog is sound, and so is every scope over it. -/
structure Sound (workspace : Workspace) : Prop where
  catalog : workspace.catalog.Sound
  scopes : ∀ scope ∈ workspace.scopes, scope.Sound workspace.catalog

section

variable {workspace : Workspace} {position : Nat} {scope : Scope}

/-- A step that asks nothing of a scope leaves it as it is. -/
theorem scope_serve_of_none {step : Step} (quiet : step.requestTo? position = none)
    (opened : workspace.scopes[position]? = some scope) :
    (workspace.serve step).2.scopes[position]? = some scope := by
  cases step with
  | catalog request => exact opened
  | start config =>
      simp only [serve]
      split
      next => exact opened
      next =>
        rw [List.getElem?_append_left (List.getElem?_eq_some_iff.1 opened).1]
        exact opened
  | scope place request =>
      have apart : place ≠ position := by
        intro same
        simp [Step.requestTo?, same] at quiet
      simp only [serve]
      split
      next => exact opened
      next => rw [List.getElem?_set_ne apart, opened]

/-- A scope that was not there before a step was opened by it. -/
theorem started_of_unopened {step : Step} (unopened : workspace.scopes[position]? = none)
    (opened : (workspace.serve step).2.scopes[position]? = some scope) :
    ∃ config grown, Scope.start config workspace.catalog = .ok (scope, grown) := by
  cases step with
  | catalog request => simp [serve, unopened] at opened
  | start config =>
      simp only [serve] at opened
      split at opened
      next => simp [unopened] at opened
      next new grown started =>
        rw [List.getElem?_append_right (List.getElem?_eq_none_iff.1 unopened)] at opened
        have member := List.mem_of_getElem? opened
        rw [List.mem_singleton.1 member]
        exact ⟨config, grown, started⟩
  | scope place request =>
      simp only [serve] at opened
      split at opened
      next => simp [unopened] at opened
      next =>
        have bound := List.getElem?_eq_none_iff.1 unopened
        rw [List.getElem?_eq_none (by simpa using bound)] at opened
        cases opened

/-- A request to a scope is served by the scope over the current catalog. -/
theorem serve_scope (opened : workspace.scopes[position]? = some scope)
    (request : Scope.Request) :
    workspace.serve (.scope position request) =
      (.scope (scope.serve workspace.catalog request).result,
        ⟨(scope.serve workspace.catalog request).catalog,
          workspace.scopes.set position (scope.serve workspace.catalog request).scope⟩) := by
  simp only [serve, opened]

theorem scope_serve_scope (opened : workspace.scopes[position]? = some scope)
    (request : Scope.Request) :
    (workspace.serve (.scope position request)).2.scopes[position]? =
      some (scope.serve workspace.catalog request).scope := by
  rw [serve_scope opened]
  exact List.getElem?_set_self (List.getElem?_eq_some_iff.1 opened).1

end

namespace Sound

variable {workspace : Workspace} {position : Nat} {scope : Scope}

theorem ofCatalog {catalog : Catalog} (sound : catalog.Sound) : (ofCatalog catalog).Sound :=
  ⟨sound, fun _ opened => absurd opened List.not_mem_nil⟩

theorem scopeAt (sound : workspace.Sound) (opened : workspace.scopes[position]? = some scope) :
    scope.Sound workspace.catalog :=
  sound.scopes scope (List.mem_of_getElem? opened)

/-- Every step keeps a workspace sound and lets its catalog grow. -/
theorem serve (sound : workspace.Sound) (step : Step) :
    workspace.catalog.Leads (workspace.serve step).2.catalog ∧ (workspace.serve step).2.Sound := by
  cases step with
  | catalog request =>
      have leads := sound.catalog.serve request
      exact ⟨leads, leads.sound, fun scope opened => (sound.scopes scope opened).grow leads.grows⟩
  | start config =>
      simp only [Workspace.serve]
      split
      next => exact ⟨sound.catalog.leads_refl, sound⟩
      next opened grown started =>
        obtain ⟨leads, openedSound⟩ := Scope.Sound.start sound.catalog started
        refine ⟨leads, leads.sound, ?_⟩
        intro other member
        rcases List.mem_append.1 member with old | new
        · exact (sound.scopes other old).grow leads.grows
        · rw [List.mem_singleton.1 new]
          exact openedSound
  | scope position request =>
      cases opened : workspace.scopes[position]? with
      | none =>
          simp only [Workspace.serve, opened]
          exact ⟨sound.catalog.leads_refl, sound⟩
      | some scope =>
          obtain ⟨leads, scopeSound⟩ := (sound.scopeAt opened).serve sound.catalog request
          rw [serve_scope opened]
          refine ⟨leads, leads.sound, ?_⟩
          intro other member
          rcases List.mem_or_eq_of_mem_set member with old | rfl
          · exact (sound.scopes other old).grow leads.grows
          · exact scopeSound

theorem after (sound : workspace.Sound) (steps : List Step) :
    workspace.catalog.Leads (workspace.after steps).catalog ∧ (workspace.after steps).Sound := by
  induction steps generalizing workspace with
  | nil => exact ⟨sound.catalog.leads_refl, sound⟩
  | cons step rest ih =>
      obtain ⟨leads, nextSound⟩ := sound.serve step
      obtain ⟨leadsOn, lastSound⟩ := ih nextSound
      exact ⟨⟨leadsOn.sound, leads.grows.trans leadsOn.grows⟩, lastSound⟩

/--
A relation between scopes that every permitted request establishes, and that
is reflexive and transitive, holds between the scope of a position before and
after a run in which only permitted requests are made to this position.
-/
theorem run (permitted : Scope.Request → Prop) (related : Scope → Scope → Prop)
    (refl : ∀ scope, related scope scope)
    (trans : ∀ {first second third}, related first second → related second third →
      related first third)
    (served : ∀ {scope : Scope} {catalog : Catalog} {request : Scope.Request},
      scope.Sound catalog → catalog.Sound → permitted request →
        related scope (scope.serve catalog request).scope)
    (sound : workspace.Sound) (opened : workspace.scopes[position]? = some scope)
    {steps : List Step}
    (allowed : ∀ request, Step.scope position request ∈ steps → permitted request) :
    ∃ last, (workspace.after steps).scopes[position]? = some last ∧ related scope last := by
  induction steps generalizing workspace scope with
  | nil => exact ⟨scope, opened, refl scope⟩
  | cons step rest ih =>
      have nextSound := (sound.serve step).2
      have later : ∀ request, Step.scope position request ∈ rest → permitted request :=
        fun request member => allowed request (List.mem_cons_of_mem _ member)
      cases asked : step.requestTo? position with
      | none => exact ih nextSound (scope_serve_of_none asked opened) later
      | some request =>
          rw [Step.requestTo?_eq_some_iff] at asked
          subst asked
          obtain ⟨last, reached, on⟩ := ih nextSound (scope_serve_scope opened request) later
          have first := served (sound.scopeAt opened) sound.catalog
            (allowed request List.mem_cons_self)
          exact ⟨last, reached, trans first on⟩

end Sound

/-- Every reachable workspace is sound. -/
theorem Reachable.sound {workspace : Workspace} (reachable : workspace.Reachable) :
    workspace.Sound := by
  induction reachable with
  | fresh => exact .ofCatalog .fresh
  | restored accepted => exact .ofCatalog (.restore accepted)
  | step _ step ih => exact (ih.serve step).2

/-- What holds of every scope that is opened, and is kept by every request, always holds. -/
theorem Reachable.forall_scopes {holds : Scope → Prop}
    (started : ∀ {config : Config} {catalog grown : Catalog} {scope : Scope},
      Scope.start config catalog = .ok (scope, grown) → holds scope)
    (served : ∀ {scope : Scope} {catalog : Catalog}, holds scope → scope.Sound catalog →
      catalog.Sound → ∀ request, holds (scope.serve catalog request).scope)
    {workspace : Workspace} (reachable : workspace.Reachable) :
    ∀ scope ∈ workspace.scopes, holds scope := by
  induction reachable with
  | fresh => exact fun _ opened => absurd opened List.not_mem_nil
  | restored accepted => exact fun _ opened => absurd opened List.not_mem_nil
  | @step workspace reachable step ih =>
      cases step with
      | catalog request => exact ih
      | start config =>
          simp only [serve]
          split
          next => exact ih
          next new grown began =>
            intro scope member
            rcases List.mem_append.1 member with old | last
            · exact ih scope old
            · rw [List.mem_singleton.1 last]
              exact started began
      | scope position request =>
          cases opened : workspace.scopes[position]? with
          | none =>
              simp only [serve, opened]
              exact ih
          | some scope =>
              rw [serve_scope opened]
              intro other member
              rcases List.mem_or_eq_of_mem_set member with old | rfl
              · exact ih other old
              · exact served (ih scope (List.mem_of_getElem? opened))
                  (reachable.sound.scopeAt opened) reachable.sound.catalog request

end PropertyGraph.Workspace
