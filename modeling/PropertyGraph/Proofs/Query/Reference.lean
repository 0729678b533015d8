import PropertyGraph.Proofs.Catalog.Directory
import PropertyGraph.Query

/-!
# What references denote

A reference denotes a descriptor by its name, or by its id and name together.
For the descriptors of an ordered directory this is exactly what resolution
finds, so the filter made from groups of references can be read off the
descriptor itself, without the directory.
-/

namespace PropertyGraph

namespace TypeRef

/-- Whether the reference means the descriptor of the given id and name. -/
def denotes (reference : TypeRef) (id : SchemaId) (name : String) : Bool :=
  match reference with
  | .name wanted => wanted = name
  | .descriptor wantedId wanted => wantedId = id && wanted = name

def allDenote (groups : List (List TypeRef)) (id : SchemaId) (name : String) : Bool :=
  groups.all fun group => group.any fun reference => reference.denotes id name

end TypeRef

namespace Directory

variable {δ : Type} [Catalogued δ] {directory : Directory δ}

/-- A filter made from groups admits an id if a member of each group resolves to it. -/
theorem typeFilter_admits (directory : Directory δ) (groups : List (List TypeRef))
    (id : SchemaId) :
    (directory.typeFilter groups).admits id =
      groups.all fun group =>
        group.any fun reference => directory.resolve? reference = some id := by
  have folded (filter : TypeFilter) :
      (groups.foldl (fun filter group =>
        filter.and (.only (group.filterMap directory.resolve?))) filter).admits id =
      (filter.admits id &&
        groups.all fun group =>
          group.any fun reference => directory.resolve? reference = some id) := by
    induction groups generalizing filter with
    | nil => simp
    | cons group rest ih =>
        have admitted : (TypeFilter.only (group.filterMap directory.resolve?)).admits id =
            group.any fun reference => directory.resolve? reference = some id := by
          rw [Bool.eq_iff_iff]
          simp [TypeFilter.admits, List.mem_filterMap]
        rw [List.foldl_cons, ih, TypeFilter.and_admits, admitted, List.all_cons, Bool.and_assoc]
  have whole := folded .any
  rwa [TypeFilter.any_admits, Bool.true_and] at whole

/-- A reference resolves to the id of a known descriptor exactly when it denotes it. -/
theorem resolve?_eq_id_iff (ordered : directory.Ordered) {entry : δ}
    (known : entry ∈ directory.entries) (reference : TypeRef) :
    directory.resolve? reference = some (Catalogued.id entry) ↔
      reference.denotes (Catalogued.id entry) (Catalogued.name entry) = true := by
  cases reference with
  | name wanted =>
      simp only [resolve?, TypeRef.denotes, Option.map_eq_some_iff, ordered.find?_eq_some_iff,
        decide_eq_true_eq]
      constructor
      · rintro ⟨other, ⟨otherKnown, named⟩, same⟩
        rw [← named, ordered.eq_of_id otherKnown known same]
      · rintro rfl
        exact ⟨entry, ⟨known, rfl⟩, rfl⟩
  | descriptor wantedId wanted =>
      simp only [resolve?, TypeRef.denotes, Option.map_eq_some_iff, ordered.matching?_eq_some_iff,
        Bool.and_eq_true, decide_eq_true_eq]
      constructor
      · rintro ⟨other, ⟨otherKnown, numbered, named⟩, same⟩
        rw [← numbered, ← named, ordered.eq_of_id otherKnown known same]
        exact ⟨rfl, rfl⟩
      · rintro ⟨rfl, rfl⟩
        exact ⟨entry, ⟨known, rfl, rfl⟩, rfl⟩

/-- What a reference resolves to, it resolves to in every grown directory. -/
theorem Grows.resolve? {grown : Directory δ} (grows : directory.Grows grown)
    (ordered : directory.Ordered) (grownOrdered : grown.Ordered) {reference : TypeRef}
    {id : SchemaId} (resolved : directory.resolve? reference = some id) :
    grown.resolve? reference = some id := by
  cases reference with
  | name wanted =>
      obtain ⟨entry, found, numbered⟩ := Option.map_eq_some_iff.1 resolved
      obtain ⟨known, named⟩ := ordered.find?_eq_some_iff.1 found
      exact Option.map_eq_some_iff.2
        ⟨entry, grownOrdered.find?_eq_some_iff.2 ⟨grows.mem known, named⟩, numbered⟩
  | descriptor wantedId wanted =>
      obtain ⟨entry, found, numbered⟩ := Option.map_eq_some_iff.1 resolved
      obtain ⟨known, matched⟩ := ordered.matching?_eq_some_iff.1 found
      exact Option.map_eq_some_iff.2
        ⟨entry, grownOrdered.matching?_eq_some_iff.2 ⟨grows.mem known, matched⟩, numbered⟩

/-- Of a known descriptor, a filter admits the id if every group denotes the descriptor. -/
theorem typeFilter_admits_id (ordered : directory.Ordered) {entry : δ}
    (known : entry ∈ directory.entries) (groups : List (List TypeRef)) :
    (directory.typeFilter groups).admits (Catalogued.id entry) =
      TypeRef.allDenote groups (Catalogued.id entry) (Catalogued.name entry) := by
  have decides (reference : TypeRef) :
      decide (directory.resolve? reference = some (Catalogued.id entry)) =
        reference.denotes (Catalogued.id entry) (Catalogued.name entry) := by
    rw [Bool.eq_iff_iff, decide_eq_true_iff]
    exact resolve?_eq_id_iff ordered known reference
  simp only [typeFilter_admits, decides, TypeRef.allDenote]

end Directory

end PropertyGraph
