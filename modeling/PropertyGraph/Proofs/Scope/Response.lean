import PropertyGraph.Proofs.Scope.Storing
import PropertyGraph.Scope.Request

/-!
# Requests and responses

What a scope responds to a request is determined by a few plain facts: which
vertices are live, what the name or descriptor in the request denotes, and
whether the value fits.  A request that fails does so for one of the listed
refusals, and each refusal is certain to be met with its error; everything
else succeeds with the one change that the request asks for.
-/

namespace PropertyGraph.Scope

/-- The vertices that a request takes to be live. -/
def Request.needs : Request → List VertexId
  | addEdge source _ target => [source, target]
  | addEdgeWithLabel source _ target => [source, target]
  | addProperty owner _ _ => [owner]
  | addPropertyWithKey owner _ _ => [owner]
  | addVertex => []
  | addVertexWithLabel _ => []
  | removeRelation _ => []
  | commit => []
  | rollback => []

section

variable (scope : Scope) (catalog : Catalog)

/-- The request adds a vertex with this label, over the catalog that the label is resolved in. -/
inductive AddsVertex : Request → VertexLabel → Catalog → Prop where
  | standard : AddsVertex .addVertex scope.defaultLabel catalog
  | named {name : String} {label : VertexLabel} {grown : Catalog}
      (resolved : catalog.vertexLabel scope.config.policy name = .ok (label, grown)) :
      AddsVertex (.addVertexWithLabel name) label grown

/-- The request joins two vertices under this label, which its name or descriptor denotes. -/
inductive Connects : Request → VertexId → EdgeLabel → VertexId → Catalog → Prop where
  | named {source target : VertexId} {name : String} {label : EdgeLabel} {grown : Catalog}
      (resolved : catalog.edgeLabel scope.config.policy name = .ok (label, grown)) :
      Connects (.addEdge source name target) source label target grown
  | labelled {source target : VertexId} {label : EdgeLabel}
      (known : label ∈ catalog.edgeLabels.entries) :
      Connects (.addEdgeWithLabel source label target) source label target catalog

/-- The request stores a value under this key, which its name or descriptor denotes. -/
inductive Stores : Request → VertexId → PropertyKey → Value → Catalog → Prop where
  | named {owner : VertexId} {name : String} {value : Value} {key : PropertyKey}
      {grown : Catalog}
      (resolved : catalog.propertyKey scope.config.policy name = .ok (key, grown)) :
      Stores (.addProperty owner name value) owner key value grown
  | keyed {owner : VertexId} {claimed key : PropertyKey} {value : Value}
      (known : key ∈ catalog.propertyKeys.entries) (sameId : key.id = claimed.id)
      (sameName : key.name = claimed.name) :
      Stores (.addPropertyWithKey owner claimed value) owner key value catalog

/-- Why a request fails, with which error, and over which catalog. -/
inductive Refusal : Request → GraphError → Catalog → Prop where
  | vertexMissing {request : Request} {id : VertexId}
      (missing : scope.missing? request.needs = some id) :
      Refusal request (.vertexNotFound id) catalog
  | vertexLabel {name : String} {error : GraphError}
      (refused : catalog.vertexLabels.Refuses scope.config.autoSchema name error) :
      Refusal (.addVertexWithLabel name) error catalog
  | edgeLabel {source target : VertexId} {name : String} {error : GraphError}
      (live : scope.missing? [source, target] = none)
      (refused : catalog.edgeLabels.Refuses scope.config.autoSchema name error) :
      Refusal (.addEdge source name target) error catalog
  | foreignLabel {source target : VertexId} {label : EdgeLabel}
      (live : scope.missing? [source, target] = none)
      (foreign : label ∉ catalog.edgeLabels.entries) :
      Refusal (.addEdgeWithLabel source label target) (.unknownType .edgeLabel label.name) catalog
  | propertyKey {owner : VertexId} {name : String} {value : Value} {error : GraphError}
      (live : scope.missing? [owner] = none)
      (refused : catalog.propertyKeys.Refuses scope.config.autoSchema name error) :
      Refusal (.addProperty owner name value) error catalog
  | foreignKey {owner : VertexId} {claimed : PropertyKey} {value : Value}
      (live : scope.missing? [owner] = none)
      (foreign : ∀ key ∈ catalog.propertyKeys.entries, key.id = claimed.id →
        key.name ≠ claimed.name) :
      Refusal (.addPropertyWithKey owner claimed value) (.unknownType .propertyKey claimed.name)
        catalog
  | valueRejected {request : Request} {owner : VertexId} {key : PropertyKey} {value : Value}
      {grown : Catalog} (live : scope.missing? [owner] = none)
      (stores : Stores scope catalog request owner key value grown)
      (rejected : key.dataType.accepts value = false) :
      Refusal request (.schemaMismatch key.name key.dataType value.typeName) grown
  | relationMissing {id : RelationId} (missing : scope.arena.relation? id = none) :
      Refusal (.removeRelation id) (.relationNotFound id) catalog

/-- What a scope responds to a request: the result, the scope and the catalog after it. -/
inductive Response : Request → Outcome Answer → Prop where
  | refuse {request : Request} {error : GraphError} {grown : Catalog}
      (refusal : Refusal scope catalog request error grown) :
      Response request ⟨.error (.error error), scope, grown⟩
  | addVertex {request : Request} {label : VertexLabel} {grown : Catalog}
      (adds : AddsVertex scope catalog request label grown) :
      Response request
        ⟨.ok (.vertex (scope.arena.addVertex label).1),
          { scope with arena := (scope.arena.addVertex label).2 }, grown⟩
  | connect {request : Request} {source target : VertexId} {label : EdgeLabel} {grown : Catalog}
      (live : scope.missing? [source, target] = none)
      (connects : Connects scope catalog request source label target grown) :
      Response request
        ⟨.ok (.edge (scope.arena.connect source label target).1),
          { scope with arena := (scope.arena.connect source label target).2 }, grown⟩
  | store {request : Request} {owner : VertexId} {key : PropertyKey} {value : Value}
      {grown : Catalog} (live : scope.missing? [owner] = none)
      (stores : Stores scope catalog request owner key value grown)
      (accepted : key.dataType.accepts value = true) :
      Response request
        ⟨.ok (.property (scope.arena.storeNamed owner key (key.dataType.coerce value)).1),
          { scope with
            arena := (scope.arena.storeNamed owner key (key.dataType.coerce value)).2 }, grown⟩
  | release {id : RelationId} {relation : Relation}
      (found : scope.arena.relation? id = some relation) :
      Response (.removeRelation id)
        ⟨.ok (.relation relation), { scope with arena := scope.arena.release relation }, catalog⟩
  | commit : Response .commit ⟨.ok (.modified scope.commit.1), scope.commit.2, catalog⟩
  | rollback : Response .rollback ⟨.ok (.modified scope.rollback.1), scope.rollback.2, catalog⟩

end

variable {scope : Scope} {catalog grown : Catalog} {request : Request}

theorem missing?_owner {owner : VertexId} :
    scope.missing? [owner] = none ↔ scope.containsVertex owner = true := by
  rw [missing?_eq_none_iff]
  exact List.forall_mem_singleton

theorem AddsVertex.leads {label : VertexLabel}
    (adds : AddsVertex scope catalog request label grown) (sound : scope.Sound catalog)
    (catalogSound : catalog.Sound) :
    catalog.Leads grown ∧ label ∈ grown.vertexLabels.entries := by
  cases adds with
  | standard => exact ⟨catalogSound.leads_refl, sound.defaultLabel_known⟩
  | named resolved => exact catalogSound.vertexLabel resolved

theorem Connects.leads {source target : VertexId} {label : EdgeLabel}
    (connects : Connects scope catalog request source label target grown)
    (catalogSound : catalog.Sound) :
    catalog.Leads grown ∧ label ∈ grown.edgeLabels.entries := by
  cases connects with
  | named resolved => exact catalogSound.edgeLabel resolved
  | labelled known => exact ⟨catalogSound.leads_refl, known⟩

theorem Connects.needs {source target : VertexId} {label : EdgeLabel}
    (connects : Connects scope catalog request source label target grown) :
    request.needs = [source, target] := by
  cases connects <;> rfl

theorem Stores.leads {owner : VertexId} {key : PropertyKey} {value : Value}
    (stores : Stores scope catalog request owner key value grown)
    (catalogSound : catalog.Sound) :
    catalog.Leads grown ∧ key ∈ grown.propertyKeys.entries := by
  cases stores with
  | named resolved => exact catalogSound.propertyKey resolved
  | keyed known => exact ⟨catalogSound.leads_refl, known⟩

theorem Stores.needs {owner : VertexId} {key : PropertyKey} {value : Value}
    (stores : Stores scope catalog request owner key value grown) : request.needs = [owner] := by
  cases stores <;> rfl

/-- A missing vertex is noticed before anything else. -/
theorem serve_missing {id : VertexId} (missing : scope.missing? request.needs = some id) :
    scope.serve catalog request = scope.refuse catalog (.vertexNotFound id) := by
  cases request with
  | addEdge source name target =>
      simp only [Request.needs] at missing
      simp only [Scope.serve, addEdge, missing]
      rfl
  | addEdgeWithLabel source label target =>
      simp only [Request.needs] at missing
      simp only [Scope.serve, addEdgeWithLabel, missing]
      rfl
  | addProperty owner name value =>
      simp only [Request.needs] at missing
      simp only [Scope.serve, addProperty, missing]
      rfl
  | addPropertyWithKey owner key value =>
      simp only [Request.needs] at missing
      simp only [Scope.serve, addPropertyWithKey, missing]
      rfl
  | addVertex => cases missing
  | addVertexWithLabel name => cases missing
  | removeRelation id => cases missing
  | commit => cases missing
  | rollback => cases missing

section

variable (catalogSound : catalog.Sound)
include catalogSound

/-- Storing is storing under the key that the request denotes. -/
theorem Stores.serve {owner : VertexId} {key : PropertyKey} {value : Value}
    (stores : Stores scope catalog request owner key value grown)
    (live : scope.missing? [owner] = none) :
    scope.serve catalog request = (scope.addValue grown owner key value).map .property := by
  cases stores with
  | named resolved => simp only [Scope.serve, addProperty, live, resolved]
  | @keyed _ claimed _ _ known sameId sameName =>
      have matched : catalog.propertyKeys.matching? claimed.id claimed.name = some key :=
        catalogSound.propertyKeys.matching?_eq_some_iff.2 ⟨known, sameId, sameName⟩
      simp only [Scope.serve, addPropertyWithKey, live, matched]

/-- Connecting is attaching an edge under the label that the request denotes. -/
theorem Connects.serve {source target : VertexId} {label : EdgeLabel}
    (connects : Connects scope catalog request source label target grown)
    (live : scope.missing? [source, target] = none) :
    scope.serve catalog request =
      (scope.conclude grown (scope.arena.attachEdge source label target)).map .edge := by
  cases connects with
  | named resolved => simp only [Scope.serve, addEdge, live, resolved]
  | labelled known =>
      have matched : catalog.edgeLabels.matching? label.id label.name = some label :=
        catalogSound.edgeLabels.matching?_eq_some_iff.2 ⟨known, rfl, rfl⟩
      simp only [Scope.serve, addEdgeWithLabel, live, matched]

/-- A refusal is certain to be met with its error, and with the scope as it was. -/
theorem Refusal.serve {error : GraphError}
    (refusal : Refusal scope catalog request error grown) :
    scope.serve catalog request = scope.refuse grown error := by
  cases refusal with
  | vertexMissing missing => exact serve_missing missing
  | @vertexLabel name _ refused =>
      have failed : catalog.vertexLabel scope.config.policy name = .error error :=
        catalogSound.vertexLabel_eq_error_iff.2 refused
      simp only [Scope.serve, addVertexWithLabel, failed]
      rfl
  | @edgeLabel source target name _ live refused =>
      have failed : catalog.edgeLabel scope.config.policy name = .error error :=
        catalogSound.edgeLabel_eq_error_iff.2 refused
      simp only [Scope.serve, addEdge, live, failed]
      rfl
  | @foreignLabel source target label live foreign =>
      have unmatched : catalog.edgeLabels.matching? label.id label.name = none := by
        rw [catalogSound.edgeLabels.matching?_eq_none_iff]
        rintro ⟨id, name⟩ known rfl rfl
        exact foreign known
      simp only [Scope.serve, addEdgeWithLabel, live, unmatched]
      rfl
  | @propertyKey owner name value _ live refused =>
      have failed : catalog.propertyKey scope.config.policy name = .error error :=
        catalogSound.propertyKey_eq_error_iff.2 refused
      simp only [Scope.serve, addProperty, live, failed]
      rfl
  | @foreignKey owner claimed value live foreign =>
      have unmatched : catalog.propertyKeys.matching? claimed.id claimed.name = none :=
        catalogSound.propertyKeys.matching?_eq_none_iff.2 foreign
      simp only [Scope.serve, addPropertyWithKey, live, unmatched]
      rfl
  | @valueRejected _ owner key value _ live stores rejected =>
      have unfit : ¬ key.dataType.accepts value = true := by simp [rejected]
      rw [stores.serve catalogSound live, addValue, if_neg unfit]
      rfl
  | @relationMissing id missing =>
      simp only [Scope.serve, removeRelation, Arena.Consistent.detach_eq_none missing]
      rfl

theorem Refusal.response {error : GraphError}
    (refusal : Refusal scope catalog request error grown) :
    Response scope catalog request (scope.serve catalog request) := by
  rw [refusal.serve catalogSound]
  exact .refuse refusal

end

namespace Sound

variable (sound : scope.Sound catalog) (catalogSound : catalog.Sound)
include sound catalogSound

theorem connect_response {source target : VertexId} {label : EdgeLabel}
    (connects : Connects scope catalog request source label target grown)
    (live : scope.missing? [source, target] = none) :
    Response scope catalog request (scope.serve catalog request) := by
  have vertices := missing?_eq_none_iff.1 live
  rw [connects.serve catalogSound live,
    sound.arena.attachEdge_eq_attach (vertices source (by simp)) (vertices target (by simp))]
  exact .connect live connects

/-- A value that fits its key is stored under the name of the key. -/
theorem serve_store {owner : VertexId} {key : PropertyKey} {value : Value}
    (stores : Stores scope catalog request owner key value grown)
    (live : scope.missing? [owner] = none) (accepted : key.dataType.accepts value = true) :
    scope.serve catalog request =
      ⟨.ok (.property (scope.arena.storeNamed owner key (key.dataType.coerce value)).1),
        { scope with
          arena := (scope.arena.storeNamed owner key (key.dataType.coerce value)).2 }, grown⟩ := by
  obtain ⟨leads, known⟩ := stores.leads catalogSound
  have ownerLive := missing?_eq_none_iff.1 live owner (by simp)
  have stored := (sound.arena.grow leads.grows).storeValue_eq_storeNamed leads.sound known
    ownerLive (key.dataType.coerce value)
  rw [stores.serve catalogSound live, addValue, if_pos accepted, stored]
  rfl

theorem store_response {owner : VertexId} {key : PropertyKey} {value : Value}
    (stores : Stores scope catalog request owner key value grown)
    (live : scope.missing? [owner] = none) :
    Response scope catalog request (scope.serve catalog request) := by
  cases accepted : key.dataType.accepts value with
  | false => exact Refusal.response catalogSound (.valueRejected live stores accepted)
  | true =>
      rw [sound.serve_store catalogSound stores live accepted]
      exact .store live stores accepted

/-- On a sound scope and catalog every request has its response. -/
theorem serve_response (request : Request) :
    Response scope catalog request (scope.serve catalog request) := by
  cases live : scope.missing? request.needs with
  | some id => exact Refusal.response catalogSound (.vertexMissing live)
  | none =>
      cases request with
      | addVertex => exact .addVertex .standard
      | addVertexWithLabel name =>
          cases resolved : catalog.vertexLabel scope.config.policy name with
          | error error =>
              exact Refusal.response catalogSound
                (.vertexLabel (catalogSound.vertexLabel_eq_error_iff.1 resolved))
          | ok answer =>
              simp only [Scope.serve, addVertexWithLabel, resolved]
              exact .addVertex (.named resolved)
      | addEdge source name target =>
          cases resolved : catalog.edgeLabel scope.config.policy name with
          | error error =>
              exact Refusal.response catalogSound
                (.edgeLabel live (catalogSound.edgeLabel_eq_error_iff.1 resolved))
          | ok answer => exact sound.connect_response catalogSound (.named resolved) live
      | addEdgeWithLabel source label target =>
          by_cases known : label ∈ catalog.edgeLabels.entries
          · exact sound.connect_response catalogSound (.labelled known) live
          · exact Refusal.response catalogSound (.foreignLabel live known)
      | addProperty owner name value =>
          cases resolved : catalog.propertyKey scope.config.policy name with
          | error error =>
              exact Refusal.response catalogSound
                (.propertyKey live (catalogSound.propertyKey_eq_error_iff.1 resolved))
          | ok answer => exact sound.store_response catalogSound (.named resolved) live
      | addPropertyWithKey owner claimed value =>
          cases matched : catalog.propertyKeys.matching? claimed.id claimed.name with
          | none =>
              exact Refusal.response catalogSound
                (.foreignKey live (catalogSound.propertyKeys.matching?_eq_none_iff.1 matched))
          | some key =>
              obtain ⟨known, sameId, sameName⟩ :=
                catalogSound.propertyKeys.matching?_eq_some_iff.1 matched
              exact sound.store_response catalogSound (.keyed known sameId sameName) live
      | removeRelation id =>
          cases found : scope.arena.relation? id with
          | none => exact Refusal.response catalogSound (.relationMissing found)
          | some relation =>
              simp only [Scope.serve, removeRelation, sound.arena.detach_eq_release found]
              exact .release found
      | commit => exact .commit
      | rollback => exact .rollback

/-- A request that fails is refused for one of the listed reasons. -/
theorem refusal_of_failed {failure : Failure}
    (failed : (scope.serve catalog request).result = .error failure) :
    ∃ error grown, failure = .error error ∧ Refusal scope catalog request error grown := by
  cases outcome : scope.serve catalog request with
  | mk result after grown =>
      have response := sound.serve_response catalogSound request
      rw [outcome] at response failed
      cases response with
      | @refuse _ error _ refusal => exact ⟨error, grown, (Except.error.inj failed).symm, refusal⟩
      | addVertex adds => cases failed
      | connect live connects => cases failed
      | store live stores accepted => cases failed
      | release found => cases failed
      | commit => cases failed
      | rollback => cases failed

end Sound

end PropertyGraph.Scope
