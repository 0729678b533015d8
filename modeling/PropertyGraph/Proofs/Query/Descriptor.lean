import PropertyGraph.Proofs.Catalog.Interning
import PropertyGraph.Proofs.Query.Listing
import PropertyGraph.Proofs.Query.Named

/-!
# Descriptors and names

A descriptor is looked up by its id and then has to carry its name, a name is
looked up as it is.  Where the catalog knows the descriptor both lookups find
the same entry, so requests and queries by descriptor do what those by name do.
A descriptor that the catalog does not know finds nothing, whatever its name.
-/

namespace PropertyGraph

namespace TypeRef

variable {δ : Type} [Catalogued δ]

def toEntry (entry : δ) : TypeRef := .descriptor (Catalogued.id entry) (Catalogued.name entry)

def toName (entry : δ) : TypeRef := .name (Catalogued.name entry)

end TypeRef

namespace Directory

variable {δ : Type} [Catalogued δ]

/-- The directory has a descriptor under the id of this one, and with the same name. -/
def Knows (directory : Directory δ) (entry : δ) : Prop :=
  ∃ known, directory.byId? (Catalogued.id entry) = some known ∧
    Catalogued.name known = Catalogued.name entry

variable {directory : Directory δ}

/-- What is known under an id and its name is found under the name alone. -/
theorem Knows.lookups {entry : δ} (knows : directory.Knows entry) (ordered : directory.Ordered) :
    ∃ known, directory.matching? (Catalogued.id entry) (Catalogued.name entry) = some known ∧
      directory.find? (Catalogued.name entry) = some known := by
  obtain ⟨known, found, named⟩ := knows
  obtain ⟨member, numbered⟩ := ordered.byId?_eq_some_iff.1 found
  exact ⟨known, ordered.matching?_eq_some_iff.2 ⟨member, numbered, named⟩,
    ordered.find?_eq_some_iff.2 ⟨member, named⟩⟩

theorem matching?_of_not_knows {entry : δ} (foreign : ¬ directory.Knows entry) :
    directory.matching? (Catalogued.id entry) (Catalogued.name entry) = none := by
  rw [matching?, Option.filter_eq_none_iff]
  intro known found named
  exact foreign ⟨known, found, of_decide_eq_true named⟩

/-! ## What references resolve to -/

theorem Knows.resolve? {entry : δ} (knows : directory.Knows entry) (ordered : directory.Ordered) :
    directory.resolve? (.toEntry entry) = directory.resolve? (.toName entry) := by
  obtain ⟨known, matched, found⟩ := knows.lookups ordered
  simp only [Directory.resolve?, TypeRef.toEntry, TypeRef.toName, matched, found]

theorem resolve?_of_not_knows {entry : δ} (foreign : ¬ directory.Knows entry) :
    directory.resolve? (.toEntry entry) = none := by
  simp only [resolve?, TypeRef.toEntry, matching?_of_not_knows foreign, Option.map_none]

/-- Of known descriptors, the references by id and by name resolve to the same ids. -/
theorem filterMap_resolve?_of_knows (ordered : directory.Ordered) {group : List δ}
    (known : ∀ entry ∈ group, directory.Knows entry) :
    (group.map TypeRef.toEntry).filterMap directory.resolve? =
      (group.map TypeRef.toName).filterMap directory.resolve? := by
  rw [List.filterMap_map, List.filterMap_map]
  apply List.filterMap_congr
  intro entry member
  exact (known entry member).resolve? ordered

/-- Of unknown descriptors, no reference resolves. -/
theorem filterMap_resolve?_of_not_knows {group : List δ}
    (foreign : ∀ entry ∈ group, ¬ directory.Knows entry) :
    (group.map TypeRef.toEntry).filterMap directory.resolve? = [] := by
  rw [List.filterMap_map, List.filterMap_eq_nil_iff]
  intro entry member
  exact resolve?_of_not_knows (foreign entry member)

/-- An unknown descriptor adds nothing to what the references of a group resolve to. -/
theorem filterMap_resolve?_append_of_not_knows {entry : δ} (foreign : ¬ directory.Knows entry)
    (front back : List TypeRef) :
    (front ++ TypeRef.toEntry entry :: back).filterMap directory.resolve? =
      (front ++ back).filterMap directory.resolve? := by
  rw [List.filterMap_append, List.filterMap_cons_none (resolve?_of_not_knows foreign),
    List.filterMap_append]

/-- Only what the references of a group resolve to matters. -/
theorem typeFilter_congr {first second : List TypeRef}
    (same : first.filterMap directory.resolve? = second.filterMap directory.resolve?)
    (before after : List (List TypeRef)) :
    directory.typeFilter (before ++ first :: after) =
      directory.typeFilter (before ++ second :: after) := by
  simp only [typeFilter, List.foldl_append, List.foldl_cons, same]

/-- A group whose references do not resolve lets nothing pass. -/
theorem typeFilter_unresolved {group : List TypeRef}
    (unresolved : group.filterMap directory.resolve? = [])
    (before after : List (List TypeRef)) (id : SchemaId) :
    (directory.typeFilter (before ++ group :: after)).admits id = false := by
  have closed : (group.any fun reference => directory.resolve? reference = some id) = false := by
    rw [List.any_eq_false]
    intro reference member
    rw [List.filterMap_eq_nil_iff.1 unresolved reference member]
    simp
  rw [typeFilter_admits, List.all_append, List.all_cons, closed, Bool.false_and, Bool.and_false]

end Directory

namespace Query

variable {scope : Scope} {catalog : Catalog}

def labelled (query : Query) (labels : List (List TypeRef)) : Query :=
  { query with labels := labels }

def keyed (query : Query) (keys : List (List TypeRef)) : Query := { query with keys := keys }

/-- What all terminals answer is decided by the matching relations and the count of edges. -/
theorem read_congr {first second : Query} (vertex : first.vertex = second.vertex)
    (limit : first.limit = second.limit)
    (edges : first.edgeRelations scope catalog = second.edgeRelations scope catalog)
    (properties : first.propertyRelations scope catalog = second.propertyRelations scope catalog)
    (counted : first.edgeCount scope catalog = second.edgeCount scope catalog)
    (wantsEdges : first.wantsEdges = second.wantsEdges)
    (wantsProperties : first.wantsProperties = second.wantsProperties) :
    first.read scope catalog = second.read scope catalog := by
  have cut {α : Type} (answers : List α) : first.cut answers = second.cut answers := by
    rw [Query.cut, Query.cut, limit]
  have sameEdges : first.edges scope catalog = second.edges scope catalog := by
    simp only [Query.edges, edges, cut]
  have sameProperties : first.properties scope catalog = second.properties scope catalog := by
    simp only [Query.properties, properties, cut]
  have relations : first.relations scope catalog = second.relations scope catalog := by
    simp only [Query.relations, edges, properties, wantsEdges, wantsProperties, cut]
  simp only [read, vertices, count, propertyCount, sameEdges, sameProperties, relations, counted,
    vertex]

section

variable {first second : List TypeRef} (query : Query) (before after : List (List TypeRef))

/-- Of a group of labels only what its references resolve to matters. -/
theorem read_labelled
    (same : first.filterMap catalog.edgeLabels.resolve? =
      second.filterMap catalog.edgeLabels.resolve?) :
    (query.labelled (before ++ first :: after)).read scope catalog =
      (query.labelled (before ++ second :: after)).read scope catalog := by
  have filters : (query.labelled (before ++ first :: after)).labelFilter catalog =
      (query.labelled (before ++ second :: after)).labelFilter catalog :=
    Directory.typeFilter_congr same before after
  have constrained (group : List TypeRef) : (before ++ group :: after).isEmpty = false := by
    cases before <;> rfl
  apply read_congr
  · rfl
  · rfl
  · rw [edgeRelations, filters]
    rfl
  · rfl
  · rw [edgeCount, filters]
    rfl
  · simp only [wantsEdges, labelled, constrained]
  · simp only [wantsProperties, labelled, constrained]

/-- Of a group of keys only what its references resolve to matters. -/
theorem read_keyed
    (same : first.filterMap catalog.propertyKeys.resolve? =
      second.filterMap catalog.propertyKeys.resolve?) :
    (query.keyed (before ++ first :: after)).read scope catalog =
      (query.keyed (before ++ second :: after)).read scope catalog := by
  have filters : (query.keyed (before ++ first :: after)).keyFilter catalog =
      (query.keyed (before ++ second :: after)).keyFilter catalog :=
    Directory.typeFilter_congr same before after
  have constrained (group : List TypeRef) : (before ++ group :: after).isEmpty = false := by
    cases before <;> rfl
  apply read_congr
  · rfl
  · rfl
  · rfl
  · rw [propertyRelations, filters]
    rfl
  · rfl
  · simp only [wantsEdges, keyed, constrained]
  · simp only [wantsProperties, keyed, constrained]

end

/-! ## Filters that let nothing pass -/

theorem cut_nil (query : Query) {α : Type} : query.cut ([] : List α) = [] :=
  List.sublist_nil.1 (query.cut_sublist [])

/-- Where no label passes, no edges are listed or counted. -/
theorem edges_of_closed {query : Query}
    (closed : ∀ id, (query.labelFilter catalog).admits id = false) :
    query.edges scope catalog = .ok [] ∧ query.edgeCount scope catalog = 0 := by
  have nothing : (query.index scope).edges query.direction (query.labelFilter catalog) = [] := by
    rw [Index.edges, List.filter_eq_nil_iff]
    intro side _
    simp [closed]
  have none : (query.index scope).countEdges query.direction (query.labelFilter catalog) = 0 := by
    simp [Index.countEdges_eq, closed]
  constructor
  · simp only [edges, edgeRelations, nothing, List.map_nil, Arena.allIncident, Except.map,
      List.filterMap_nil, cut_nil]
  · rw [edgeCount, none]
    cases query.limit <;> simp

/-- Where no key passes, no properties are listed. -/
theorem properties_of_closed {query : Query}
    (closed : ∀ id, (query.keyFilter catalog).admits id = false) :
    query.properties scope catalog = .ok [] := by
  have nothing : (query.index scope).propertiesOf (query.keyFilter catalog) = [] := by
    rw [Index.propertiesOf, List.filter_eq_nil_iff]
    intro entry _
    simp [closed]
  have relations : query.propertyRelations scope catalog = .ok [] := by
    rw [propertyRelations, nothing]
    exact ite_self _
  rw [properties, relations, Except.map, List.filterMap_nil, cut_nil]

end Query

end PropertyGraph
