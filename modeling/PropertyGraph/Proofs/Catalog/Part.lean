import PropertyGraph.Proofs.Catalog.View

/-!
# The parts of a catalog

A catalog has one directory for each kind of descriptor.  What happens in one
of them leaves the other two alone, and is seen in the snapshot and the names
of its kind.  So a fact about the three kinds is proved once, for any part.
-/

namespace PropertyGraph.Catalog

/-- How the directory of one kind lies in a catalog. -/
structure Part (δ : Type) [Catalogued δ] where
  wrap : δ → Descriptor
  directory : Catalog → Directory δ
  put : Catalog → Directory δ → Catalog
  wrap_id : ∀ entry, (wrap entry).id = Catalogued.id entry
  wrap_name : ∀ entry, (wrap entry).name = Catalogued.name entry
  ordered : ∀ {catalog : Catalog}, catalog.Sound → (directory catalog).Ordered
  names : ∀ catalog, catalog.names (Catalogued.kind δ) = (directory catalog).names
  descriptors : ∀ catalog,
    catalog.snapshot.descriptors (Catalogued.kind δ) = (directory catalog).entries.map wrap
  directory_put : ∀ catalog grown, directory (put catalog grown) = grown
  put_directory : ∀ catalog, put catalog (directory catalog) = catalog
  others : ∀ catalog grown kind, kind ≠ Catalogued.kind δ →
    (put catalog grown).snapshot.descriptors kind = catalog.snapshot.descriptors kind

namespace Part

def propertyKeys : Part PropertyKey where
  wrap := .propertyKey
  directory := Catalog.propertyKeys
  put catalog grown := { catalog with propertyKeys := grown }
  wrap_id _ := rfl
  wrap_name _ := rfl
  ordered := Sound.propertyKeys
  names _ := rfl
  descriptors _ := rfl
  directory_put _ _ := rfl
  put_directory _ := rfl
  others _ _ kind other := by
    cases kind with
    | propertyKey => exact absurd rfl other
    | edgeLabel => rfl
    | vertexLabel => rfl

def edgeLabels : Part EdgeLabel where
  wrap := .edgeLabel
  directory := Catalog.edgeLabels
  put catalog grown := { catalog with edgeLabels := grown }
  wrap_id _ := rfl
  wrap_name _ := rfl
  ordered := Sound.edgeLabels
  names _ := rfl
  descriptors _ := rfl
  directory_put _ _ := rfl
  put_directory _ := rfl
  others _ _ kind other := by
    cases kind with
    | propertyKey => rfl
    | edgeLabel => exact absurd rfl other
    | vertexLabel => rfl

def vertexLabels : Part VertexLabel where
  wrap := .vertexLabel
  directory := Catalog.vertexLabels
  put catalog grown := { catalog with vertexLabels := grown }
  wrap_id _ := rfl
  wrap_name _ := rfl
  ordered := Sound.vertexLabels
  names _ := rfl
  descriptors _ := rfl
  directory_put _ _ := rfl
  put_directory _ := rfl
  others _ _ kind other := by
    cases kind with
    | propertyKey => rfl
    | edgeLabel => rfl
    | vertexLabel => exact absurd rfl other

end Part

end PropertyGraph.Catalog
