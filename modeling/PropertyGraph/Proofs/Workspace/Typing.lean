import PropertyGraph.Proofs.Scope.Typing
import PropertyGraph.Proofs.Workspace.Run

/-!
# Typing and cardinality

In every reachable workspace, whatever descriptors were passed to the requests,
each stored value is of the type that the catalog declares for its key, and no
vertex holds more values under a key than the catalog admits.
-/

namespace PropertyGraph

namespace Arena

def propertiesUnder (arena : Arena) (owner : VertexId) (key : PropertyKey) : List Property :=
  arena.liveProperties.filter fun property =>
    property.owner = owner && property.key.id = key.id

/-- The live properties are as the catalog declares their keys. -/
structure WellTyped (arena : Arena) (catalog : Catalog) : Prop where
  registered : ∀ property ∈ arena.liveProperties,
    catalog.propertyKeys.byId? property.key.id = some property.key
  accepted : ∀ property ∈ arena.liveProperties,
    property.key.dataType.accepts property.value = true
  not_null : ∀ property ∈ arena.liveProperties, property.value ≠ .null
  settled : ∀ property ∈ arena.liveProperties,
    property.key.dataType.coerce property.value = property.value
  typeName : ∀ property ∈ arena.liveProperties, property.key.dataType ≠ .object →
    property.value.typeName = property.key.dataType.name
  single : ∀ owner, ∀ key ∈ catalog.propertyKeys.entries, key.cardinality = .single →
    (arena.propertiesUnder owner key).length ≤ 1
  set : ∀ owner, ∀ key ∈ catalog.propertyKeys.entries, key.cardinality = .set →
    (arena.propertiesUnder owner key).Pairwise fun first second =>
      first.value.equal second.value = false ∧ second.value.equal first.value = false

namespace Typed

variable {arena : Arena} {catalog : Catalog} {key : PropertyKey}

/-- The properties of a vertex under a known key are compatible as properties of one key. -/
theorem pairwise_propertiesUnder (typed : arena.Typed) (sound : arena.Sound catalog)
    (catalogSound : catalog.Sound) (known : key ∈ catalog.propertyKeys.entries)
    (owner : VertexId) :
    (arena.propertiesUnder owner key).Pairwise fun first second =>
      match key.cardinality with
      | .single => False
      | .list => True
      | .set => first.value.equal second.value = false := by
  have under : ∀ property ∈ arena.propertiesUnder owner key,
      property.owner = owner ∧ property.key = key := by
    intro property member
    obtain ⟨live, place⟩ := List.mem_filter.1 member
    rw [Bool.and_eq_true, decide_eq_true_eq, decide_eq_true_eq] at place
    exact ⟨place.1, catalogSound.propertyKeys.eq_of_id (sound.key_known live) known place.2⟩
  have compatible := typed.compatible.sublist
    (List.filter_sublist (p := fun property => property.owner = owner && property.key.id = key.id))
  apply compatible.imp_of_mem
  intro first second firstMember secondMember agree
  obtain ⟨firstOwner, firstKey⟩ := under first firstMember
  obtain ⟨secondOwner, secondKey⟩ := under second secondMember
  have admitted := agree (firstOwner.trans secondOwner.symm) (firstKey.trans secondKey.symm)
  rwa [secondKey] at admitted

theorem wellTyped (typed : arena.Typed) (sound : arena.Sound catalog)
    (catalogSound : catalog.Sound) : arena.WellTyped catalog := by
  refine ⟨?_, fun property live => (typed.fits property live).accepted, ?_,
    fun property live => (typed.fits property live).settled, ?_, ?_, ?_⟩
  · intro property live
    exact catalogSound.propertyKeys.byId?_eq_some_iff.2 ⟨sound.key_known live, rfl⟩
  · intro property live null
    have accepted := (typed.fits property live).accepted
    rw [null, DataType.accepts_null] at accepted
    cases accepted
  · intro property live declared
    have fits := typed.fits property live
    exact DataType.typeName_eq_name fits.accepted fits.settled declared
  · intro owner key known cardinality
    have alone := typed.pairwise_propertiesUnder sound catalogSound known owner
    simp only [cardinality] at alone
    cases listed : arena.propertiesUnder owner key with
    | nil => exact Nat.zero_le _
    | cons first rest =>
        rw [listed, List.pairwise_cons] at alone
        cases rest with
        | nil => exact Nat.le_refl _
        | cons second rest => exact (alone.1 second List.mem_cons_self).elim
  · intro owner key known cardinality
    have apart := typed.pairwise_propertiesUnder sound catalogSound known owner
    simp only [cardinality] at apart
    apply apart.imp
    intro first second different
    exact ⟨different, by rw [Value.equal_comm, different]⟩

end Typed

end Arena

namespace Workspace

/--
In every reachable workspace the properties of each scope are as the catalog
declares their keys, and so are those that rolling back would restore.
-/
theorem stored_values_fit {workspace : Workspace} (reachable : workspace.Reachable)
    {scope : Scope} (opened : scope ∈ workspace.scopes) :
    scope.arena.WellTyped workspace.catalog ∧ scope.base.WellTyped workspace.catalog := by
  have typed : scope.Typed :=
    reachable.forall_scopes Scope.Typed.start Scope.Typed.serve scope opened
  have sound := reachable.sound.scopes scope opened
  have catalogSound := reachable.sound.catalog
  exact ⟨typed.arena.wellTyped sound.arena catalogSound,
    typed.base.wellTyped sound.base catalogSound⟩

/--
Integers are stored under a key for single floats, by descriptors that claim a
list of texts; a text is stored twice under a key for sets of texts, and
another text is rolled back.
-/
def measuredSteps : List Step :=
  [.catalog (.definePropertyKey "height" .float .single),
    .catalog (.definePropertyKey "tag" .string .set), .start .standard, .scope 0 .addVertex,
    .scope 0 (.addPropertyWithKey ⟨1⟩ ⟨⟨0⟩, "height", .string, .list⟩ (.integer 180)),
    .scope 0 (.addPropertyWithKey ⟨1⟩ ⟨⟨0⟩, "height", .string, .list⟩ (.integer 181)),
    .scope 0 (.addProperty ⟨1⟩ "tag" (.string "tall")), .scope 0 .commit,
    .scope 0 (.addProperty ⟨1⟩ "tag" (.string "old")), .scope 0 .rollback,
    .scope 0 (.addProperty ⟨1⟩ "tag" (.string "tall"))]

/-- One float and one text are stored. -/
theorem stored_values_fit_measured :
    ∃ scope, ((ofCatalog .fresh).after measuredSteps).scopes[0]? = some scope ∧
      scope.arena.WellTyped ((ofCatalog .fresh).after measuredSteps).catalog ∧
      scope.arena.liveProperties.map Property.value =
        [.float (.ofInt 181), .string "tall"] := by
  have reachable := Reachable.fresh.after measuredSteps
  have opened : ((ofCatalog .fresh).after measuredSteps).scopes[0]? = some _ := rfl
  exact ⟨_, opened, (stored_values_fit reachable (List.mem_of_getElem? opened)).1, rfl⟩

end Workspace

end PropertyGraph
