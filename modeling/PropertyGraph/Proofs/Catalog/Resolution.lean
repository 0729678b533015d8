import PropertyGraph.Proofs.Catalog.Interning

/-!
# Resolving and reading

Whichever way a name is resolved, one directory interns it at most.  Resolving
a name that is not to be created therefore changes nothing, and neither does
any other reading of a catalog.
-/

namespace PropertyGraph

/-- A name that is not to be created is found or refused. -/
theorem Directory.intern_unwanted {δ : Type} [Catalogued δ] {directory grown : Directory δ}
    {name : String} {make : SchemaId → δ} {entry : δ}
    (interned : directory.intern name false make = .ok (entry, grown)) : grown = directory := by
  unfold intern at interned
  split at interned
  next =>
    cases interned
    rfl
  next => simp at interned

namespace Catalog

/-- The later catalog is the given one with at most one name interned under the policy. -/
inductive Resolves (policy : Policy) (catalog : Catalog) : Catalog → Prop where
  | nothing : Resolves policy catalog catalog
  | propertyKeys {name : String} {key : PropertyKey} {keys : Directory PropertyKey}
      (interned : catalog.propertyKeys.intern name policy.autoCreate (policy.key name) =
        .ok (key, keys)) :
      Resolves policy catalog { catalog with propertyKeys := keys }
  | edgeLabels {name : String} {label : EdgeLabel} {labels : Directory EdgeLabel}
      (interned : catalog.edgeLabels.intern name policy.autoCreate (EdgeLabel.named name) =
        .ok (label, labels)) :
      Resolves policy catalog { catalog with edgeLabels := labels }
  | vertexLabels {name : String} {label : VertexLabel} {labels : Directory VertexLabel}
      (interned : catalog.vertexLabels.intern name policy.autoCreate (VertexLabel.named name) =
        .ok (label, labels)) :
      Resolves policy catalog { catalog with vertexLabels := labels }

namespace Resolves

variable {policy : Policy} {catalog grown : Catalog} {name : String}

theorem propertyKey {key : PropertyKey}
    (resolved : catalog.propertyKey policy name = .ok (key, grown)) :
    catalog.Resolves policy grown := by
  obtain ⟨⟨found, directory⟩, interned, same⟩ := map_eq_ok_iff.1 resolved
  cases same
  exact .propertyKeys interned

theorem edgeLabel {label : EdgeLabel}
    (resolved : catalog.edgeLabel policy name = .ok (label, grown)) :
    catalog.Resolves policy grown := by
  obtain ⟨⟨found, directory⟩, interned, same⟩ := map_eq_ok_iff.1 resolved
  cases same
  exact .edgeLabels interned

theorem vertexLabel {label : VertexLabel}
    (resolved : catalog.vertexLabel policy name = .ok (label, grown)) :
    catalog.Resolves policy grown := by
  obtain ⟨⟨found, directory⟩, interned, same⟩ := map_eq_ok_iff.1 resolved
  cases same
  exact .vertexLabels interned

theorem resolveOrCreate {kind : Kind} {descriptor : Descriptor}
    (resolved : catalog.resolveOrCreate kind policy name = .ok (descriptor, grown)) :
    catalog.Resolves policy grown := by
  cases kind with
  | propertyKey =>
      obtain ⟨⟨key, after⟩, found, same⟩ := map_eq_ok_iff.1 resolved
      cases same
      exact propertyKey found
  | edgeLabel =>
      obtain ⟨⟨label, after⟩, found, same⟩ := map_eq_ok_iff.1 resolved
      cases same
      exact edgeLabel found
  | vertexLabel =>
      obtain ⟨⟨label, after⟩, found, same⟩ := map_eq_ok_iff.1 resolved
      cases same
      exact vertexLabel found

/-- A request to resolve a name does nothing else, whether it is met or refused. -/
theorem served (catalog : Catalog) (kind : Kind) (policy : Policy) (name : String) :
    catalog.Resolves policy
      (Served.ofCreation catalog id (catalog.resolveOrCreate kind policy name)).catalog :=
  Served.catalog_ofCreation (catalog.Resolves policy) .nothing fun _ _ => resolveOrCreate

/-- A policy that creates nothing leaves the catalog as it is. -/
theorem strict (resolves : catalog.Resolves policy grown) (strict : policy.autoCreate = false) :
    grown = catalog := by
  cases resolves with
  | nothing => rfl
  | propertyKeys interned =>
      rw [strict] at interned
      rw [Directory.intern_unwanted interned]
  | edgeLabels interned =>
      rw [strict] at interned
      rw [Directory.intern_unwanted interned]
  | vertexLabels interned =>
      rw [strict] at interned
      rw [Directory.intern_unwanted interned]

end Resolves

/-- The request only reads: it looks something up, or resolves a name without creating it. -/
def Request.reads : Request → Bool
  | .definePropertyKey _ _ _ => false
  | .defineEdgeLabel _ => false
  | .defineVertexLabel _ => false
  | .resolve _ _ => true
  | .resolveOrCreate _ _ policy => !policy.autoCreate
  | .lookup _ _ => true
  | .byId _ _ => true
  | .contains _ _ => true
  | .names _ => true
  | .length _ => true
  | .snapshot => true

/-- A request that only reads leaves the catalog as it is. -/
theorem serve_reads {catalog : Catalog} {request : Request} (reads : request.reads = true) :
    (catalog.serve request).catalog = catalog := by
  cases request with
  | resolve kind name => exact (Resolves.served catalog kind .strict name).strict rfl
  | resolveOrCreate kind name policy =>
      exact (Resolves.served catalog kind policy name).strict (Bool.not_eq_eq_eq_not.mp reads)
  | lookup kind name => rfl
  | byId kind id => rfl
  | contains kind name => rfl
  | names kind => rfl
  | length kind => rfl
  | snapshot => rfl
  | definePropertyKey name dataType cardinality => cases reads
  | defineEdgeLabel name => cases reads
  | defineVertexLabel name => cases reads

end Catalog

end PropertyGraph
