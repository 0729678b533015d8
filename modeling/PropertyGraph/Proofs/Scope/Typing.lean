import PropertyGraph.Proofs.Scope.Response
import PropertyGraph.Proofs.Scope.Soundness
import PropertyGraph.Proofs.Value.Equality

/-!
# Stored values fit their keys

A value is stored under the key that the catalog holds, in the form that the
key's data type gives it, and beside no other value that the key's cardinality
rules out.  Storing is the only request that adds a property, so this is kept
by every request, and by rolling back since it held at the last commit.
-/

namespace PropertyGraph

/-- The value of the property is accepted by its key, and is in its stored form. -/
structure Property.Fits (property : Property) : Prop where
  accepted : property.key.dataType.accepts property.value = true
  settled : property.key.dataType.coerce property.value = property.value

/-- If the properties are of one vertex and one key, then the cardinality admits both. -/
def Property.Compatible (first second : Property) : Prop :=
  first.owner = second.owner → first.key = second.key →
    match second.key.cardinality with
    | .single => False
    | .list => True
    | .set => first.value.equal second.value = false

/-- A value that a data type accepts fits it once it is in its stored form. -/
theorem Property.fits_coerce {key : PropertyKey} {value : Value}
    (accepted : key.dataType.accepts value = true) (id : RelationId) (owner : VertexId) :
    Property.Fits ⟨id, key, owner, key.dataType.coerce value⟩ :=
  ⟨DataType.accepts_coerce accepted, key.dataType.coerce_coerce value⟩

namespace Arena

/-- Every live property fits its key, and any two are compatible. -/
structure Typed (arena : Arena) : Prop where
  fits : ∀ property ∈ arena.liveProperties, property.Fits
  compatible : arena.liveProperties.Pairwise Property.Compatible

theorem liveProperties_attach (arena : Arena) (relation : Relation) :
    (arena.attach relation).liveProperties =
      arena.liveProperties ++ relation.property?.toList := by
  change (arena.relations.push relation).live.filterMap Relation.property? = _
  rw [Slots.live_push, List.filterMap_append]
  cases relation <;> rfl

/-- The properties that remain without the relations of some ids. -/
theorem filterMap_property?_filter (relations : List Relation) (keep : RelationId → Bool) :
    (relations.filter fun relation => keep relation.id).filterMap Relation.property? =
      (relations.filterMap Relation.property?).filter fun property => keep property.id := by
  rw [List.filterMap_filter, List.filter_filterMap]
  apply List.filterMap_congr
  intro relation _
  cases relation with
  | edge e => simp
  | property p => cases kept : keep p.id <;> simp [Option.filter, Relation.id, kept]

theorem Consistent.liveProperties_releaseAll {arena : Arena} (consistent : arena.Consistent)
    (ids : List RelationId) :
    (arena.releaseAll ids).liveProperties =
      arena.liveProperties.filter fun property => property.id ∉ ids := by
  rw [liveProperties, consistent.live_releaseAll]
  exact filterMap_property?_filter _ fun id => id ∉ ids

/-- Another property of the vertex and the key is among the held ones. -/
theorem mem_held {arena : Arena} {owner : VertexId} {key : PropertyKey} {other : Property}
    (live : other ∈ arena.liveProperties) (sameOwner : other.owner = owner)
    (sameKey : other.key = key) : other ∈ arena.held owner key.name :=
  List.mem_filter.2 ⟨live, by simp [sameOwner, sameKey]⟩

namespace Typed

variable {arena : Arena}

theorem fresh : Arena.fresh.Typed := ⟨by simp [liveProperties, Arena.fresh], .nil⟩

/-- Only what is added can spoil an arena. -/
theorem of_sublist {later : Arena} (typed : arena.Typed)
    (fewer : later.liveProperties.Sublist arena.liveProperties) : later.Typed :=
  ⟨fun property live => typed.fits property (fewer.subset live), typed.compatible.sublist fewer⟩

/-- A property may be added that fits and is compatible with all others. -/
theorem attach (typed : arena.Typed) {property : Property} (fits : property.Fits)
    (compatible : ∀ other ∈ arena.liveProperties, other.Compatible property) :
    (arena.attach (.property property)).Typed := by
  have listed : (arena.attach (.property property)).liveProperties =
      arena.liveProperties ++ [property] := arena.liveProperties_attach _
  refine ⟨?_, ?_⟩
  · intro other live
    rw [listed, List.mem_append, List.mem_singleton] at live
    rcases live with old | rfl
    · exact typed.fits other old
    · exact fits
  · rw [listed, List.pairwise_append]
    refine ⟨typed.compatible, List.pairwise_singleton _ _, ?_⟩
    intro other live new member
    rw [List.mem_singleton.1 member]
    exact compatible other live

/-- Storing clears the way for the new property, or finds that it is not needed. -/
theorem storeNamed (typed : arena.Typed) (consistent : arena.Consistent) {owner : VertexId}
    {key : PropertyKey} {value : Value} (accepted : key.dataType.accepts value = true) :
    (arena.storeNamed owner key (key.dataType.coerce value)).2.Typed := by
  have fits := Property.fits_coerce accepted ⟨arena.relations.next⟩ owner
  cases cardinality : key.cardinality with
  | single =>
      simp only [Arena.storeNamed, cardinality]
      have remaining := consistent.liveProperties_releaseAll
        ((arena.held owner key.name).map Property.id)
      apply (typed.of_sublist (remaining ▸ List.filter_sublist)).attach fits
      intro other live sameOwner sameKey
      rw [remaining, List.mem_filter, decide_eq_true_eq] at live
      exact absurd (List.mem_map_of_mem (mem_held live.1 sameOwner sameKey)) live.2
  | list =>
      simp only [Arena.storeNamed, cardinality]
      apply typed.attach fits
      intro other live _ _
      simp only [cardinality]
  | set =>
      simp only [Arena.storeNamed, cardinality]
      split
      next => exact typed
      next missing =>
        apply typed.attach fits
        intro other live sameOwner sameKey
        simp only [cardinality]
        exact Bool.eq_false_iff.2
          (List.find?_eq_none.1 missing other (mem_held live sameOwner sameKey))

end Typed

end Arena

namespace Scope

/-- The stored values fit their keys, now and as of the last commit. -/
structure Typed (scope : Scope) : Prop where
  arena : scope.arena.Typed
  base : scope.base.Typed

namespace Typed

variable {scope : Scope} {catalog : Catalog}

theorem start {config : Config} {grown : Catalog}
    (started : Scope.start config catalog = .ok (scope, grown)) : scope.Typed := by
  obtain ⟨_, _, same⟩ := map_eq_ok_iff.1 started
  cases same
  exact ⟨.fresh, .fresh⟩

/-- Every request keeps the stored values fitting. -/
theorem serve (typed : scope.Typed) (sound : scope.Sound catalog) (catalogSound : catalog.Sound)
    (request : Request) : (scope.serve catalog request).scope.Typed := by
  have response := sound.serve_response catalogSound request
  generalize scope.serve catalog request = outcome at response
  cases response with
  | refuse refusal => exact typed
  | addVertex adds => exact ⟨typed.arena.of_sublist (List.Sublist.refl _), typed.base⟩
  | connect live connects =>
      refine ⟨typed.arena.of_sublist ?_, typed.base⟩
      rw [Arena.connect, Arena.liveProperties_attach]
      simp
  | store live stores accepted =>
      exact ⟨typed.arena.storeNamed sound.arena.toConsistent accepted, typed.base⟩
  | @release id relation found =>
      refine ⟨typed.arena.of_sublist ?_, typed.base⟩
      simp only [Arena.liveProperties, sound.arena.live_release]
      exact List.filter_sublist.filterMap _
  | commit =>
      have kept : scope.arena.unmark.Typed := typed.arena.of_sublist (List.Sublist.refl _)
      exact ⟨kept, kept⟩
  | rollback =>
      rw [sound.rollback_eq]
      refine ⟨typed.base.of_sublist ?_, typed.base⟩
      have live := Slots.live_resize scope.base.relations sound.follows.relations_next
      simp only [Arena.liveProperties, Arena.withSlotsOf, live]
      exact List.Sublist.refl _

end Typed

end Scope

end PropertyGraph
