import PropertyGraph.Proofs.Catalog.Resolution
import PropertyGraph.Proofs.Scope.Response

/-!
# Requests resolve one name

The only thing that a request to a scope does to the catalog is to resolve one
name at most, under the policy of the scope.
-/

namespace PropertyGraph

namespace Scope

variable {scope : Scope} {catalog grown : Catalog} {request : Request}

theorem AddsVertex.resolves {label : VertexLabel}
    (adds : AddsVertex scope catalog request label grown) :
    catalog.Resolves scope.config.policy grown := by
  cases adds with
  | standard => exact .nothing
  | named resolved => exact .vertexLabel resolved

theorem Connects.resolves {source target : VertexId} {label : EdgeLabel}
    (connects : Connects scope catalog request source label target grown) :
    catalog.Resolves scope.config.policy grown := by
  cases connects with
  | named resolved => exact .edgeLabel resolved
  | labelled known => exact .nothing

theorem Stores.resolves {owner : VertexId} {key : PropertyKey} {value : Value}
    (stores : Stores scope catalog request owner key value grown) :
    catalog.Resolves scope.config.policy grown := by
  cases stores with
  | named resolved => exact .propertyKey resolved
  | keyed known => exact .nothing

theorem Refusal.resolves {error : GraphError}
    (refusal : Refusal scope catalog request error grown) :
    catalog.Resolves scope.config.policy grown := by
  cases refusal with
  | valueRejected live stores rejected => exact stores.resolves
  | vertexMissing missing => exact .nothing
  | vertexLabel refused => exact .nothing
  | edgeLabel live refused => exact .nothing
  | foreignLabel live foreign => exact .nothing
  | propertyKey live refused => exact .nothing
  | foreignKey live foreign => exact .nothing
  | relationMissing missing => exact .nothing

/-- A request resolves one name at most, whether it is met or refused. -/
theorem Sound.serve_resolves (sound : scope.Sound catalog) (catalogSound : catalog.Sound)
    (request : Request) :
    catalog.Resolves scope.config.policy (scope.serve catalog request).catalog := by
  have response := sound.serve_response catalogSound request
  generalize scope.serve catalog request = outcome at response ⊢
  cases response with
  | refuse refusal => exact refusal.resolves
  | addVertex adds => exact adds.resolves
  | connect live connects => exact connects.resolves
  | store live stores accepted => exact stores.resolves
  | release found => exact .nothing
  | commit => exact .nothing
  | rollback => exact .nothing

/-- A scope keeps the configuration that it is opened with. -/
theorem start_config {config : Config}
    (started : Scope.start config catalog = .ok (scope, grown)) : scope.config = config := by
  obtain ⟨⟨label, after⟩, resolved, same⟩ := map_eq_ok_iff.1 started
  cases same
  rfl

end Scope

end PropertyGraph
