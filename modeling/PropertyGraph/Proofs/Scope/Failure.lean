import PropertyGraph.Proofs.Scope.Response

/-!
# What a failed request leaves behind

A request that fails leaves its scope as it was.  The catalog too is as it was,
with one exception: a key is created for a name before the value is held
against it, so a value that does not fit the key of a new name is refused only
after the key has been created.
-/

namespace PropertyGraph.Scope

variable {scope : Scope} {catalog : Catalog} {failure : Failure}

/-- The name is new and to be created, but the value does not fit the key that it gets. -/
structure Misfit (scope : Scope) (catalog : Catalog) (owner : VertexId) (name : String)
    (value : Value) : Prop where
  live : scope.containsVertex owner = true
  fresh : catalog.propertyKeys.find? name = none
  nonempty : name ≠ ""
  created : scope.config.autoSchema = true
  numbered : catalog.propertyKeys.nextId ≠ .last
  refused : scope.config.dataType.accepts value = false

def withNewKey (scope : Scope) (catalog : Catalog) (name : String) : Catalog :=
  { catalog with
    propertyKeys :=
      catalog.propertyKeys.append (scope.config.policy.key name catalog.propertyKeys.nextId) }

/-- A misfit is refused, and its key stays. -/
theorem Misfit.serve {owner : VertexId} {name : String} {value : Value}
    (misfit : scope.Misfit catalog owner name value) (catalogSound : catalog.Sound) :
    scope.serve catalog (.addProperty owner name value) =
      ⟨.error (.error (.schemaMismatch name scope.config.dataType value.typeName)), scope,
        scope.withNewKey catalog name⟩ := by
  have live := missing?_owner.2 misfit.live
  have resolved := catalogSound.propertyKey_eq misfit.fresh scope.config.policy
  have permitted : ¬ (scope.config.policy.autoCreate = false ∨ name = "") := by
    simp [Config.policy, misfit.created, misfit.nonempty]
  rw [if_neg permitted, if_neg misfit.numbered] at resolved
  have refused : ¬ (scope.config.policy.key name catalog.propertyKeys.nextId).dataType.accepts
      value = true := by
    rw [Bool.not_eq_true]
    exact misfit.refused
  simp only [Scope.serve, addProperty, live, resolved, addValue, if_neg refused]
  rfl

/-- A failed request leaves the scope and, unless it is a misfit, the catalog. -/
theorem Sound.serve_failed (sound : scope.Sound catalog) (catalogSound : catalog.Sound)
    {request : Request} (failed : (scope.serve catalog request).result = .error failure) :
    (scope.serve catalog request).scope = scope ∧
      ((scope.serve catalog request).catalog = catalog ∨
        ∃ owner name value, request = .addProperty owner name value ∧
          scope.Misfit catalog owner name value) := by
  obtain ⟨error, grown, -, refusal⟩ := sound.refusal_of_failed catalogSound failed
  rw [refusal.serve catalogSound]
  refine ⟨rfl, ?_⟩
  cases refusal with
  | @valueRejected _ owner key value _ live stores rejected =>
      cases stores with
      | @named _ name _ _ _ resolved =>
          cases found : catalog.propertyKeys.find? name with
          | some held =>
              rw [Catalog.propertyKey_of_find? found] at resolved
              cases resolved
              exact .inl rfl
          | none =>
              rw [catalogSound.propertyKey_eq found] at resolved
              split at resolved
              next => cases resolved
              next permitted =>
                rw [not_or, Bool.not_eq_false] at permitted
                split at resolved
                next => cases resolved
                next numbered =>
                  cases resolved
                  exact .inr ⟨owner, name, value, rfl, missing?_owner.1 live, found, permitted.2,
                    permitted.1, numbered, rejected⟩
      | keyed => exact .inl rfl
  | vertexMissing => exact .inl rfl
  | vertexLabel => exact .inl rfl
  | edgeLabel => exact .inl rfl
  | foreignLabel => exact .inl rfl
  | propertyKey => exact .inl rfl
  | foreignKey => exact .inl rfl
  | relationMissing => exact .inl rfl

end PropertyGraph.Scope
