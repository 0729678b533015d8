import PropertyGraph.Proofs.Arena.Unnumbered
import PropertyGraph.Proofs.Query.Scan

/-!
# Storing values by name

Which properties a new value replaces or repeats is decided by the id of its
key.  In a sound arena over a sound catalog the name of the key decides the
same, so storing a value never depends on which ids the keys have got.
-/

namespace PropertyGraph.Arena

def held (arena : Arena) (owner : VertexId) (name : String) : List Property :=
  arena.liveProperties.filter fun property => property.owner = owner && property.key.name = name

/-- Store a value as the cardinality of its key says, by the name of the key. -/
def storeNamed (arena : Arena) (owner : VertexId) (key : PropertyKey) (value : Value) :
    Property × Arena :=
  let property : Property := ⟨⟨arena.relations.next⟩, key, owner, value⟩
  match key.cardinality with
  | .single =>
    (property, (arena.releaseAll ((arena.held owner key.name).map Property.id)).attach
      (.property property))
  | .set =>
    match (arena.held owner key.name).find? fun property => property.value.equal value with
    | some found => (found, arena)
    | none => (property, arena.attach (.property property))
  | .list => (property, arena.attach (.property property))

theorem held_unnumbered (arena : Arena) (owner : VertexId) (name : String) :
    arena.unnumbered.held owner name = (arena.held owner name).map Property.unnumbered := by
  rw [held, held, liveProperties_unnumbered]
  exact filter_map_of _ (fun _ => rfl) _

/-- Storing by name commutes with taking the schema ids away. -/
theorem storeNamed_unnumbered (arena : Arena) (owner : VertexId) (key : PropertyKey)
    (value : Value) :
    arena.unnumbered.storeNamed owner key.unnumbered value =
      (arena.storeNamed owner key value).map Property.unnumbered unnumbered := by
  let property : Property := ⟨⟨arena.relations.next⟩, key, owner, value⟩
  have attached (cleared : Arena) := cleared.attach_unnumbered (.property property)
  have ids : (arena.unnumbered.held owner key.name).map Property.id =
      (arena.held owner key.name).map Property.id := by
    rw [held_unnumbered, List.map_map]
    rfl
  have sameName : key.unnumbered.name = key.name := rfl
  have sameCardinality : key.unnumbered.cardinality = key.cardinality := rfl
  simp only [storeNamed, relations_next_unnumbered, sameName, sameCardinality]
  cases key.cardinality with
  | single =>
      simp only [ids, releaseAll_unnumbered]
      exact congrArg (Prod.mk property.unnumbered) (attached _)
  | list => exact congrArg (Prod.mk property.unnumbered) (attached arena)
  | set =>
      have found : (arena.unnumbered.held owner key.name).find?
            (fun property => property.value.equal value) =
          ((arena.held owner key.name).find? fun property => property.value.equal value).map
            Property.unnumbered := by
        rw [held_unnumbered, List.find?_map]
        rfl
      simp only [found]
      cases (arena.held owner key.name).find? fun property => property.value.equal value with
      | none => exact congrArg (Prod.mk property.unnumbered) (attached arena)
      | some property => rfl

namespace Sound

variable {arena : Arena} {catalog : Catalog} (sound : arena.Sound catalog)
  (catalogSound : catalog.Sound) {key : PropertyKey}
  (known : key ∈ catalog.propertyKeys.entries)
include sound catalogSound known

/-- The live properties under a known key are those under its name. -/
theorem filter_key_id (owner : VertexId) :
    (arena.liveProperties.filter fun property =>
      property.owner = owner && property.key.id = key.id) = arena.held owner key.name := by
  apply List.filter_congr
  intro property live
  have propertyKnown := sound.key_known live
  have same : property.key.id = key.id ↔ property.key.name = key.name := by
    constructor
    · intro sameId
      rw [catalogSound.propertyKeys.eq_of_id propertyKnown known sameId]
    · intro sameName
      rw [catalogSound.propertyKeys.eq_of_name propertyKnown known sameName]
  simp only [same]

theorem propertyIds_eq_held {owner : VertexId} (live : (arena.vertex? owner).isSome) :
    arena.propertyIds owner key.id = (arena.held owner key.name).map Property.id := by
  have relations : (arena.relations.live.filter fun relation =>
        relation.isOwnedBy owner && relation.typeId = key.id) =
      (arena.held owner key.name).map .property := by
    rw [← sound.filter_key_id catalogSound known owner, liveProperties,
      ← Relation.filter_properties]
    apply List.filter_congr
    intro relation _
    cases relation with
    | edge e => rfl
    | property p => rfl
  rw [sound.propertyIds_eq live, relations, List.map_map]
  rfl

/-- A value is stored by the id of its key as it is by the name. -/
theorem storeValue_eq_storeNamed {owner : VertexId} (live : (arena.vertex? owner).isSome)
    (value : Value) :
    Scope.storeValue arena owner key value = .ok (arena.storeNamed owner key value) := by
  have ids := sound.propertyIds_eq_held catalogSound known live
  have attached := sound.attachProperty_eq_attach live key value
  cases cardinality : key.cardinality with
  | single =>
      have releases := Consistent.releaseAll_releases arena
        ((arena.held owner key.name).map Property.id)
      have cleared := (releases.consistent sound.toConsistent).attachProperty_eq_attach
        (by rw [releases.vertexLive]; exact live) key value
      rw [releases.relations_next] at cleared
      simp only [Scope.storeValue, storeNamed, cardinality, ids, sound.detachAll_eq_releaseAll,
        cleared]
  | list => simp only [Scope.storeValue, storeNamed, cardinality, attached]
  | set =>
      have found := sound.heldProperties_eq live key.id
      rw [sound.filter_key_id catalogSound known owner] at found
      simp only [Scope.storeValue, storeNamed, cardinality, found]
      cases (arena.held owner key.name).find? fun property => property.value.equal value with
      | none => exact attached
      | some property => rfl

end Sound

end PropertyGraph.Arena
