import PropertyGraph.Proofs.Arena.Registration
import PropertyGraph.Proofs.Query.Listing
import PropertyGraph.Proofs.Scope.Cardinality
import PropertyGraph.Proofs.Workspace.Safety

/-!
# Adding properties as the cardinality says

In every reachable workspace a value that fits its key is added, and the
properties that are listed under the key become what the cardinality makes of
them, while everything else stays.  Under a set key the same request made once
more answers the same and changes nothing, unless the value holds a
not-a-number, which equals nothing.
-/

namespace PropertyGraph

/-- The value is added to the vertex under the key, and nothing else happens. -/
structure Scope.Adds (scope : Scope) (catalog : Catalog) (request : Scope.Request)
    (owner : VertexId) (key : PropertyKey) (value : Value) (answer : Property) (later : Scope)
    (grown : Catalog) : Prop where
  served : scope.serve catalog request = ⟨.ok (.property answer), later, grown⟩
  arenaOnly : later = { scope with arena := later.arena }
  registered : grown.Registers (.propertyKey key)
  keyed : answer.key = key
  puts : scope.arena.Puts ⟨⟨scope.arena.relations.next⟩, key, owner, key.dataType.coerce value⟩
    answer later.arena
  listedBefore : scope.propertiesNamed catalog owner key.name =
    .ok (scope.arena.held owner key.name)
  listedAfter : later.propertiesNamed grown owner key.name = .ok (later.arena.held owner key.name)

/-- On a sound scope and catalog a value that fits its key is added. -/
theorem Scope.Sound.adds {scope : Scope} {catalog grown : Catalog} {request : Scope.Request}
    {owner : VertexId} {key : PropertyKey} {value : Value} (sound : scope.Sound catalog)
    (catalogSound : catalog.Sound) (stores : scope.Stores catalog request owner key value grown)
    (live : scope.containsVertex owner = true) (accepted : key.dataType.accepts value = true) :
    ∃ answer later, scope.Adds catalog request owner key value answer later grown := by
  let stored := scope.arena.storeNamed owner key (key.dataType.coerce value)
  have served := sound.serve_store catalogSound stores (missing?_owner.2 live) accepted
  obtain ⟨leads, laterSound⟩ := sound.serve catalogSound request
  rw [served] at leads laterSound
  obtain ⟨-, known⟩ := stores.leads catalogSound
  have puts := sound.arena.toConsistent.storeNamed_puts live key (key.dataType.coerce value)
  have held : stored.1 ∈ stored.2.held owner key.name := by
    have put := key.cardinality.put_mem (scope.arena.held owner key.name)
      ⟨⟨scope.arena.relations.next⟩, key, owner, key.dataType.coerce value⟩
    rwa [← puts.held] at put
  obtain ⟨member, under⟩ := List.mem_filter.1 held
  rw [Bool.and_eq_true, decide_eq_true_eq, decide_eq_true_eq] at under
  have answerKnown := laterSound.arena.key_known member
  refine ⟨stored.1, { scope with arena := stored.2 }, served, rfl, ?_, ?_, puts, ?_, ?_⟩
  · exact leads.sound.registers (List.mem_map_of_mem known)
  · exact leads.sound.propertyKeys.eq_of_name answerKnown known under.2
  · exact scope.propertiesNamed_eq sound.arena catalogSound owner key.name
  · exact propertiesNamed_eq laterSound.arena leads.sound owner key.name

/-- A value is added to a set once more without any change exactly if it holds no not-a-number. -/
theorem Scope.Sound.serve_again_iff {scope later : Scope} {catalog grown : Catalog}
    {request : Scope.Request} {owner : VertexId} {name : String} {value : Value}
    {answer : Property} (sound : scope.Sound catalog) (catalogSound : catalog.Sound)
    (asks : request.adds? = some (owner, name, value))
    (added : scope.serve catalog request = ⟨.ok (.property answer), later, grown⟩)
    (set : answer.key.cardinality = .set) :
    later.serve grown request = ⟨.ok (.property answer), later, grown⟩ ↔
      value.holdsNaN = false := by
  obtain ⟨_, key, _, stores, live, accepted, answered, reached⟩ :=
    sound.stores_of_added catalogSound added
  have denoted := stores.adds?
  rw [asks] at denoted
  cases denoted
  have keyed : answer.key = key := by
    obtain ⟨_, _, adds⟩ := sound.adds catalogSound stores (missing?_owner.1 live) accepted
    cases adds.served.symm.trans added
    exact adds.keyed
  rw [keyed] at set
  obtain ⟨leads, laterSound⟩ := sound.serve catalogSound request
  have forward : request ≠ .rollback := by
    rintro rfl
    cases asks
  have keeps := sound.keepsVertices catalogSound forward
  rw [added] at leads laterSound keeps
  have stillLive : later.missing? [owner] = none :=
    missing?_owner.2 (keeps owner (missing?_owner.1 live))
  rw [laterSound.serve_store leads.sound (stores.again catalogSound) stillLive accepted,
    ← Value.holdsNaN_coerce key.dataType value,
    ← sound.arena.toConsistent.storeNamed_again (missing?_owner.1 live) set]
  subst answered reached
  constructor
  · intro same
    have results := congrArg Outcome.result same
    have arenas := congrArg (fun outcome => outcome.scope.arena) same
    simp only [Except.ok.injEq, Answer.property.injEq] at results
    exact Prod.ext results arenas
  · intro same
    simp only [same]

namespace Workspace

variable {workspace : Workspace} {scope : Scope} {request : Scope.Request} {owner : VertexId}
  {value : Value} {grown : Catalog}

/--
In every reachable workspace a value that the key accepts is added to any live
vertex, whether the key is denoted by name or by descriptor, and the properties
under the key become what the cardinality makes of them.
-/
theorem storing_follows_cardinality (reachable : workspace.Reachable)
    (opened : scope ∈ workspace.scopes) {key : PropertyKey}
    (stores : scope.Stores workspace.catalog request owner key value grown)
    (live : scope.containsVertex owner = true) (accepted : key.dataType.accepts value = true) :
    ∃ answer later, scope.Adds workspace.catalog request owner key value answer later grown :=
  (reachable.sound.scopes scope opened).adds reachable.sound.catalog stores live accepted

def cardinalitySteps : List Step :=
  [.catalog (.definePropertyKey "height" .float .single),
    .catalog (.definePropertyKey "tag" .string .set), .start .standard, .scope 0 .addVertex,
    .scope 0 (.addProperty ⟨1⟩ "height" (.float (.ofInt 180))),
    .scope 0 (.addProperty ⟨1⟩ "tag" (.string "tall"))]

/--
The single float is replaced by an integer, through a descriptor that claims a
list of texts, and the text stays.
-/
theorem storing_follows_cardinality_single :
    ∃ scope, ((ofCatalog .fresh).after cardinalitySteps).scopes[0]? = some scope ∧
      ∃ answer later, scope.Adds ((ofCatalog .fresh).after cardinalitySteps).catalog
          (.addPropertyWithKey ⟨1⟩ ⟨⟨0⟩, "height", .string, .list⟩ (.integer 181)) ⟨1⟩
          ⟨⟨0⟩, "height", .float, .single⟩ (.integer 181) answer later
          ((ofCatalog .fresh).after cardinalitySteps).catalog ∧
        answer.value = .float (.ofInt 181) ∧ later.arena.held ⟨1⟩ "height" = [answer] ∧
        (later.arena.unheld ⟨1⟩ "height").map Property.value = [.string "tall"] := by
  have reachable := Reachable.fresh.after cardinalitySteps
  have opened : ((ofCatalog .fresh).after cardinalitySteps).scopes[0]? = some _ := rfl
  have added : ∃ answer later, Scope.Adds _ ((ofCatalog .fresh).after cardinalitySteps).catalog
      (.addPropertyWithKey ⟨1⟩ ⟨⟨0⟩, "height", .string, .list⟩ (.integer 181)) ⟨1⟩
      ⟨⟨0⟩, "height", .float, .single⟩ (.integer 181) answer later
      ((ofCatalog .fresh).after cardinalitySteps).catalog :=
    storing_follows_cardinality reachable (List.mem_of_getElem? opened)
      (.keyed List.mem_cons_self rfl rfl) rfl rfl
  obtain ⟨answer, later, adds⟩ := added
  obtain ⟨same, held⟩ := Prod.mk.inj adds.puts.held
  refine ⟨_, opened, answer, later, adds, ?_, ?_, ?_⟩
  · rw [same]
    rfl
  · rw [same]
    exact held
  · exact congrArg (List.map Property.value) adds.puts.unheld

/--
In every reachable workspace, when a value was added under a set key, the same
request made once more gives the same answer and leaves the scope and the
catalog as they are, exactly if no not-a-number occurs in the value at any depth.
-/
theorem set_addition_idempotent_iff (reachable : workspace.Reachable)
    (opened : scope ∈ workspace.scopes) {name : String} {answer : Property} {later : Scope}
    (asks : request.adds? = some (owner, name, value))
    (added : scope.serve workspace.catalog request = ⟨.ok (.property answer), later, grown⟩)
    (set : answer.key.cardinality = .set) :
    later.serve grown request = ⟨.ok (.property answer), later, grown⟩ ↔
      value.holdsNaN = false :=
  (reachable.sound.scopes scope opened).serve_again_iff reachable.sound.catalog asks added set

def setSteps : List Step :=
  [.catalog (.definePropertyKey "track" .object .set), .start .standard, .scope 0 .addVertex]

/-- A nested value is added once. -/
theorem set_addition_idempotent_iff_nested :
    ∃ scope, ((ofCatalog .fresh).after setSteps).scopes[0]? = some scope ∧
      ∃ answer later,
        scope.serve ((ofCatalog .fresh).after setSteps).catalog
            (.addProperty ⟨1⟩ "track" (.array [.map [("x", .float (.ofInt 1))], .null])) =
          ⟨.ok (.property answer), later, ((ofCatalog .fresh).after setSteps).catalog⟩ ∧
        later.serve ((ofCatalog .fresh).after setSteps).catalog
            (.addProperty ⟨1⟩ "track" (.array [.map [("x", .float (.ofInt 1))], .null])) =
          ⟨.ok (.property answer), later, ((ofCatalog .fresh).after setSteps).catalog⟩ ∧
        later.relationCount = 1 := by
  have reachable := Reachable.fresh.after setSteps
  have first : ((ofCatalog .fresh).after setSteps).scopes[0]? = some _ := rfl
  have opened := List.mem_of_getElem? first
  exact ⟨_, first, _, _, rfl,
    (set_addition_idempotent_iff reachable opened rfl rfl rfl).2 rfl, rfl⟩

/-- Adding a not-a-number to a set once more adds another property. -/
theorem set_addition_repeats :
    ¬ ∀ (workspace : Workspace), workspace.Reachable → ∀ scope ∈ workspace.scopes,
      ∀ (request : Scope.Request) (owner : VertexId) (name : String) (value : Value)
        (answer : Property) (later : Scope) (grown : Catalog),
        request.adds? = some (owner, name, value) →
        scope.serve workspace.catalog request = ⟨.ok (.property answer), later, grown⟩ →
        answer.key.cardinality = .set →
        later.serve grown request = ⟨.ok (.property answer), later, grown⟩ := by
  intro always
  have reachable := Reachable.fresh.after setSteps
  have opened : ((ofCatalog .fresh).after setSteps).scopes[0]? = some _ := rfl
  have again := always _ reachable _ (List.mem_of_getElem? opened)
    (.addProperty ⟨1⟩ "track" (.float .nan)) _ _ _ _ _ _ rfl rfl rfl
  have counts := congrArg (fun outcome => outcome.scope.relationCount) again
  exact absurd counts (by decide)

end Workspace

end PropertyGraph
