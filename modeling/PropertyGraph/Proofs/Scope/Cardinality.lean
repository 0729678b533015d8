import PropertyGraph.Proofs.Arena.Degree
import PropertyGraph.Proofs.Arena.Marks
import PropertyGraph.Proofs.Scope.Response
import PropertyGraph.Proofs.Scope.Typing
import PropertyGraph.Proofs.Value.Reflexivity

/-!
# Putting properties under a key

What the cardinality of a key makes of the properties that a vertex holds under
it is one function of this list and of the property to be put there.  Storing a
value does exactly this and keeps everything else: the other properties, the
edges, and every other vertex with its index and its mark.
-/

namespace PropertyGraph

/--
What is answered when a property is put to those held under its key, and what
is held then: a single one takes the place of all others, a list gets it at its
end, and so does a set unless it has an equal value, of which the first is
answered.
-/
def Cardinality.put (cardinality : Cardinality) (held : List Property) (property : Property) :
    Property × List Property :=
  match cardinality with
  | .single => (property, [property])
  | .list => (property, held ++ [property])
  | .set =>
    match held.find? fun other => other.value.equal property.value with
    | some found => (found, held)
    | none => (property, held ++ [property])

/-- Whatever is answered is held then. -/
theorem Cardinality.put_mem (cardinality : Cardinality) (held : List Property)
    (property : Property) :
    (cardinality.put held property).1 ∈ (cardinality.put held property).2 := by
  cases cardinality with
  | single => exact List.mem_singleton_self property
  | list => exact List.mem_append_right held (List.mem_singleton_self property)
  | set =>
      unfold put
      dsimp only
      split
      next found equal => exact List.mem_of_find?_eq_some equal
      next => exact List.mem_append_right held (List.mem_singleton_self property)

def Property.isUnder (property : Property) (owner : VertexId) (name : String) : Bool :=
  property.owner = owner && property.key.name = name

namespace Arena

def unheld (arena : Arena) (owner : VertexId) (name : String) : List Property :=
  arena.liveProperties.filter fun property => !property.isUnder owner name

/-- The arenas before and after a property is put under its key, and the answer. -/
structure Puts (earlier : Arena) (property answer : Property) (later : Arena) : Prop where
  unused : ∀ id relation, earlier.relation? id = some relation → id.number < property.id.number
  held : (answer, later.held property.owner property.key.name) =
    property.key.cardinality.put (earlier.held property.owner property.key.name) property
  replaced : property.key.cardinality = .single →
    ∀ other ∈ earlier.held property.owner property.key.name, later.relation? other.id = none
  unheld : later.unheld property.owner property.key.name =
    earlier.unheld property.owner property.key.name
  edges : later.liveEdges = earlier.liveEdges
  vertices : ∀ id, id ≠ property.owner → later.vertex? id = earlier.vertex? id
  counted : later.relationCount + (earlier.held property.owner property.key.name).length =
    earlier.relationCount + (later.held property.owner property.key.name).length

theorem liveEdges_attach_property (arena : Arena) (property : Property) :
    (arena.attach (.property property)).liveEdges = arena.liveEdges := by
  change (arena.relations.push (.property property)).live.filterMap Relation.edge? = _
  rw [Slots.live_push, List.filterMap_append]
  exact List.append_nil _

/-- The live properties are those of the vertex under the name and the others. -/
theorem length_held_unheld (arena : Arena) (owner : VertexId) (name : String) :
    arena.liveProperties.length =
      (arena.held owner name).length + (arena.unheld owner name).length :=
  List.length_eq_length_filter_add fun property : Property => property.isUnder owner name

namespace Consistent

variable {arena : Arena} (consistent : arena.Consistent) {owner : VertexId} {name : String}
  {ids : List RelationId} (among : ids ⊆ (arena.held owner name).map Property.id)
include consistent

section

include among

/-- Releasing held properties leaves the edges. -/
theorem liveEdges_releaseAll : (arena.releaseAll ids).liveEdges = arena.liveEdges := by
  rw [liveEdges, consistent.live_releaseAll, List.filterMap_filter, liveEdges]
  apply List.filterMap_congr
  intro relation live
  by_cases member : relation.id ∈ ids
  · obtain ⟨property, -, rfl⟩ := consistent.held_of_mem among live member
    simp
  · simp [member]

/-- Releasing held properties leaves the properties that are not held. -/
theorem unheld_releaseAll : (arena.releaseAll ids).unheld owner name = arena.unheld owner name := by
  rw [unheld, consistent.liveProperties_releaseAll, List.filter_filter, unheld]
  apply List.filter_congr
  intro property live
  by_cases member : property.id ∈ ids
  · obtain ⟨other, held, same⟩ :=
      consistent.held_of_mem among (mem_liveProperties.1 live) member
    cases same
    have under : property.isUnder owner name = true := (List.mem_filter.1 held).2
    simp [under]
  · simp [member]

end

theorem held_releaseAll (ids : List RelationId) :
    (arena.releaseAll ids).held owner name =
      (arena.held owner name).filter fun property => property.id ∉ ids := by
  rw [held, consistent.liveProperties_releaseAll, List.filter_filter, held, List.filter_filter]
  apply List.filter_congr
  intro property _
  exact Bool.and_comm _ _

/-- A released relation is not found any more. -/
theorem relation?_releaseAll {id : RelationId} (member : id ∈ ids) :
    (arena.releaseAll ids).relation? id = none := by
  have releases := releaseAll_releases arena ids
  cases found : (arena.releaseAll ids).relation? id with
  | none => rfl
  | some relation =>
      have live := mem_live_of_relation? found
      have same := (releases.consistent consistent).id_of_relation? found
      rw [consistent.live_releaseAll, List.mem_filter, same, decide_eq_true_eq] at live
      exact absurd member live.2

/--
A property of the next number that is attached in place of some held ones is
put behind those that remain, and nothing else changes.
-/
theorem puts_attach {property : Property} (numbered : property.id.number = arena.relations.next)
    (live : (arena.vertex? property.owner).isSome) {ids : List RelationId}
    (among : ids ⊆ (arena.held property.owner property.key.name).map Property.id)
    (held : (property, ((arena.held property.owner property.key.name).filter
        fun other => other.id ∉ ids) ++ [property]) =
      property.key.cardinality.put (arena.held property.owner property.key.name) property)
    (all : property.key.cardinality = .single →
      ∀ other ∈ arena.held property.owner property.key.name, other.id ∈ ids) :
    arena.Puts property property ((arena.releaseAll ids).attach (.property property)) := by
  have releases := releaseAll_releases arena ids
  have clearedConsistent := releases.consistent consistent
  have nextNumber : (Relation.property property).id.number =
      (arena.releaseAll ids).relations.next := numbered.trans releases.relations_next.symm
  have endpoints : ∀ id ∈ (Relation.property property).endpoints,
      ((arena.releaseAll ids).vertex? id).isSome := by
    simpa [Relation.endpoints, releases.vertexLive] using live
  have laterConsistent := clearedConsistent.attach nextNumber endpoints
  have properties : ((arena.releaseAll ids).attach (.property property)).liveProperties =
      (arena.releaseAll ids).liveProperties ++ [property] := liveProperties_attach _ _
  have under : property.isUnder property.owner property.key.name = true := by
    simp [Property.isUnder]
  have laterHeld : ((arena.releaseAll ids).attach (.property property)).held property.owner
        property.key.name =
      ((arena.held property.owner property.key.name).filter fun other => other.id ∉ ids) ++
        [property] := by
    rw [Arena.held, properties, List.filter_append, ← consistent.held_releaseAll]
    exact congrArg _ (List.filter_cons_of_pos under)
  have laterUnheld : ((arena.releaseAll ids).attach (.property property)).unheld property.owner
        property.key.name = arena.unheld property.owner property.key.name := by
    rw [unheld, properties, List.filter_append, ← consistent.unheld_releaseAll among]
    have gone : ([property].filter fun other =>
        !other.isUnder property.owner property.key.name) = [] := by
      simp [under]
    rw [gone]
    exact List.append_nil _
  have edges : ((arena.releaseAll ids).attach (.property property)).liveEdges =
      arena.liveEdges := by
    rw [liveEdges_attach_property, consistent.liveEdges_releaseAll among]
  refine ⟨?_, ?_, ?_, laterUnheld, edges, ?_, ?_⟩
  · intro id relation found
    rw [numbered]
    exact Slots.lt_next found
  · rw [← held, laterHeld]
  · intro single other member
    have released := consistent.relation?_releaseAll (all single other member)
    have old := Slots.lt_next (consistent.mem_liveProperties_iff.1 (List.mem_of_mem_filter member))
    change ((arena.releaseAll ids).relations.push (.property property)).get? other.id.number = none
    rw [Slots.get?_push, releases.relations_next, if_neg (Nat.ne_of_lt old)]
    exact released
  · intro id other
    have apart : (Relation.property property).isIncidentOn id = false := by
      simpa [Relation.isIncidentOn] using Ne.symm other
    rw [clearedConsistent.vertex?_attach_of_apart apart]
    exact consistent.vertex?_releaseAll_of_ne among other
  · have before := arena.length_held_unheld property.owner property.key.name
    have after := length_held_unheld ((arena.releaseAll ids).attach (.property property))
      property.owner property.key.name
    rw [laterUnheld] at after
    rw [laterConsistent.relationCount_eq, consistent.relationCount_eq, edges]
    omega

/-- Storing puts a property of the next number under its key. -/
theorem storeNamed_puts (live : (arena.vertex? owner).isSome) (key : PropertyKey)
    (value : Value) :
    arena.Puts ⟨⟨arena.relations.next⟩, key, owner, value⟩
      (arena.storeNamed owner key value).1 (arena.storeNamed owner key value).2 := by
  have nothing (held : List Property) :
      (held.filter fun property => property.id ∉ ([] : List RelationId)) = held := by simp
  cases cardinality : key.cardinality with
  | single =>
      have everything : ((arena.held owner key.name).filter fun property =>
          property.id ∉ (arena.held owner key.name).map Property.id) = [] := by
        rw [List.filter_eq_nil_iff]
        intro property member
        simpa using ⟨property, member, rfl⟩
      simp only [storeNamed, cardinality]
      apply consistent.puts_attach rfl live (List.Subset.refl _)
      · rw [cardinality, everything]
        rfl
      · exact fun _ property member => List.mem_map_of_mem member
  | list =>
      simp only [storeNamed, cardinality]
      apply consistent.puts_attach rfl live (List.nil_subset _)
      · rw [cardinality, nothing]
        rfl
      · intro single
        rw [cardinality] at single
        cases single
  | set =>
      cases equal : (arena.held owner key.name).find? fun property =>
          property.value.equal value with
      | none =>
          simp only [storeNamed, cardinality, equal]
          apply consistent.puts_attach rfl live (List.nil_subset _)
          · rw [cardinality, nothing]
            simp only [Cardinality.put, equal]
          · intro single
            rw [cardinality] at single
            cases single
      | some found =>
          simp only [storeNamed, cardinality, equal]
          refine ⟨fun _ _ known => Slots.lt_next known, ?_, ?_, rfl, rfl, fun _ _ => rfl, rfl⟩
          · simp only [cardinality, Cardinality.put, equal]
          · intro single
            simp only [cardinality] at single
            cases single

/-- Storing a value in a set once more changes nothing exactly if the value equals itself. -/
theorem storeNamed_again (live : (arena.vertex? owner).isSome) {key : PropertyKey}
    (set : key.cardinality = .set) (value : Value) :
    (arena.storeNamed owner key value).2.storeNamed owner key value =
        arena.storeNamed owner key value ↔ value.holdsNaN = false := by
  have puts := (consistent.storeNamed_puts live key value).held
  cases equal : (arena.held owner key.name).find? fun property => property.value.equal value with
  | some found =>
      have stored : arena.storeNamed owner key value = (found, arena) := by
        simp only [storeNamed, set, equal]
      have same : found.value.equal value = true := by simpa using List.find?_some equal
      rw [stored]
      exact iff_of_true stored (Value.holdsNaN_of_equal value same)
  | none =>
      let property : Property := ⟨⟨arena.relations.next⟩, key, owner, value⟩
      have stored : arena.storeNamed owner key value =
          (property, arena.attach (.property property)) := by
        simp only [storeNamed, set, equal, property]
      have held : (arena.attach (.property property)).held owner key.name =
          arena.held owner key.name ++ [property] := by
        simp only [stored, set, Cardinality.put, equal] at puts
        exact (Prod.mk.inj puts).2
      have search : ((arena.attach (.property property)).held owner key.name).find?
            (fun other => other.value.equal value) =
          if value.holdsNaN then none else some property := by
        rw [held, List.find?_append, equal, Option.none_or, List.find?_singleton]
        simp only [property, value.equal_self, Bool.not_eq_true']
        cases value.holdsNaN <;> rfl
      rw [stored]
      cases holds : value.holdsNaN with
      | false =>
          rw [holds, if_neg Bool.false_ne_true] at search
          simp only [storeNamed, set, search]
      | true =>
          rw [holds, if_pos rfl] at search
          simp only [storeNamed, set, search, Bool.true_eq_false, iff_false]
          intro same
          have numbers := congrArg (fun stored => stored.1.id.number) same
          simp [property, Arena.attach, pushRelation] at numbers

end Consistent

end Arena

namespace Scope

/-- The vertex, the name of the key and the value of a request to add a property. -/
def Request.adds? : Request → Option (VertexId × String × Value)
  | addProperty owner name value => some (owner, name, value)
  | addPropertyWithKey owner key value => some (owner, key.name, value)
  | addVertex => none
  | addVertexWithLabel _ => none
  | addEdge _ _ _ => none
  | addEdgeWithLabel _ _ _ => none
  | removeRelation _ => none
  | commit => none
  | rollback => none

variable {scope : Scope} {catalog grown : Catalog} {request : Request} {owner : VertexId}
  {key : PropertyKey} {value : Value}

namespace Stores

theorem adds? (stores : Stores scope catalog request owner key value grown) :
    request.adds? = some (owner, key.name, value) := by
  cases stores with
  | named resolved => rw [Request.adds?, Catalog.propertyKey_named resolved]
  | keyed known sameId sameName => rw [Request.adds?, sameName]

/-- Once it is resolved, the request denotes the same key and resolves nothing more. -/
theorem again (stores : Stores scope catalog request owner key value grown)
    (catalogSound : catalog.Sound) {later : Scope} :
    Stores later grown request owner key value grown := by
  obtain ⟨leads, known⟩ := stores.leads catalogSound
  cases stores with
  | named resolved =>
      have found : grown.propertyKeys.find? key.name = some key :=
        leads.sound.propertyKeys.find?_eq_some_iff.2 ⟨known, rfl⟩
      rw [Catalog.propertyKey_named resolved] at found
      exact .named (Catalog.propertyKey_of_find? found _)
  | keyed before sameId sameName => exact .keyed known sameId sameName

end Stores

/-- A property is answered only by storing a value that fits the key. -/
theorem Sound.stores_of_added (sound : scope.Sound catalog) (catalogSound : catalog.Sound)
    {answer : Property} {later : Scope}
    (added : scope.serve catalog request = ⟨.ok (.property answer), later, grown⟩) :
    ∃ owner key value, Stores scope catalog request owner key value grown ∧
      scope.missing? [owner] = none ∧ key.dataType.accepts value = true ∧
      answer = (scope.arena.storeNamed owner key (key.dataType.coerce value)).1 ∧
      later = { scope with
        arena := (scope.arena.storeNamed owner key (key.dataType.coerce value)).2 } := by
  have response := sound.serve_response catalogSound request
  rw [added] at response
  cases response with
  | store live stores accepted => exact ⟨_, _, _, stores, live, accepted, rfl, rfl⟩

end Scope

end PropertyGraph
