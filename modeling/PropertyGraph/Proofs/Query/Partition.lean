import PropertyGraph.Proofs.Arena.Degree
import PropertyGraph.Proofs.Query.Constraint

/-!
# What names divide

Listing by a name goes from the name to an id and from the id to entries, while
the names in use are read off the stored descriptors.  Both ways meet: the
edges of a vertex are divided by the names of their labels, its properties by
the names of their keys, and the names in use come in the order of the first
property under each of them.
-/

namespace PropertyGraph

/-! ## Names in the order of their first use -/

section

variable {α β : Type} [DecidableEq β]

/-- No name is used for the first time twice. -/
theorem nodup_eraseDups : ∀ names : List β, names.eraseDups.Nodup
  | [] => List.nodup_nil
  | name :: rest => by
      rw [List.eraseDups_cons, List.nodup_cons]
      constructor
      · simp [List.mem_eraseDups]
      · exact nodup_eraseDups _
  termination_by names => names.length
  decreasing_by
    have fewer := List.length_filter_le (fun other => !other == name) rest
    simp only [List.length_cons]
    omega

/--
The names of ordered items, in the order of their first use: of any two names,
an item under the first one precedes every item under the second one.
-/
theorem pairwise_eraseDups (name : α → β) {precedes : α → α → Prop} :
    ∀ {items : List α}, items.Pairwise precedes →
      (items.map name).eraseDups.Pairwise fun first second =>
        ∀ later ∈ items, name later = second →
          ∃ earlier ∈ items, name earlier = first ∧ precedes earlier later
  | [], _ => List.Pairwise.nil
  | item :: rest, ordered => by
      have others : (rest.map name).filter (fun other => !other == name item) =
          (rest.filter fun other => !name other == name item).map name := List.filter_map
      obtain ⟨first, restOrdered⟩ := List.pairwise_cons.1 ordered
      rw [List.map_cons, List.eraseDups_cons, others, List.pairwise_cons]
      have fresh :
          ∀ other ∈ ((rest.filter fun other => !name other == name item).map name).eraseDups,
            (!other == name item) = true := by
        intro other member
        obtain ⟨kept, among, rfl⟩ := List.mem_map.1 (List.mem_eraseDups.1 member)
        exact (List.mem_filter.1 among).2
      have behind : ∀ later ∈ item :: rest, (!name later == name item) = true → later ∈ rest := by
        intro later among other
        rcases List.mem_cons.1 among with rfl | behind
        · simp at other
        · exact behind
      constructor
      · rintro second member later among rfl
        exact ⟨item, List.mem_cons_self, rfl, first later (behind later among (fresh _ member))⟩
      · apply (pairwise_eraseDups name (restOrdered.filter fun other =>
          !name other == name item)).imp_of_mem
        rintro one second - member precede later among rfl
        have kept : later ∈ rest.filter fun other => !name other == name item :=
          List.mem_filter.2 ⟨behind later among (fresh _ member), fresh _ member⟩
        obtain ⟨earlier, before, named, precedes⟩ := precede later kept rfl
        exact ⟨earlier, List.mem_cons_of_mem _ (List.mem_of_mem_filter before), named, precedes⟩
  termination_by items => items.length
  decreasing_by
    have fewer := List.length_filter_le (fun other => !name other == name item) rest
    simp only [List.length_cons]
    omega

end

/-! ## Edges under the names of their labels -/

namespace Scope

/--
The edges of a direction are divided by the names of their labels: those under
a name are listed in the order of all, and each is under one name of the catalog.
-/
structure DividesEdges (scope : Scope) (catalog : Catalog) (vertex : VertexId)
    (direction : Direction) (all : List Edge) : Prop where
  unfiltered : scope.edgesNamed catalog vertex direction [] = .ok all
  listed : ∀ name, scope.edgesNamed catalog vertex direction [name] =
    .ok (all.filter fun edge => edge.label.name = name)
  once : ∀ edge ∈ all, ∃! name, name ∈ catalog.names .edgeLabel ∧
    ∃ under, scope.edgesNamed catalog vertex direction [name] = .ok under ∧ edge ∈ under

section

variable {scope : Scope} {catalog : Catalog} (sound : scope.arena.Sound catalog)
  (catalogSound : catalog.Sound)
include sound catalogSound

/-- On a sound arena over a sound catalog names divide the edges of any vertex. -/
theorem dividesEdges (vertex : VertexId) (direction : Direction) :
    scope.DividesEdges catalog vertex direction
      (((Query.around vertex).toward direction).listing scope.arena) := by
  let query := (Query.around vertex).toward direction
  have under (name : String) : scope.edgesNamed catalog vertex direction [name] =
      .ok ((query.listing scope.arena).filter fun edge => edge.label.name = name) := by
    have listed := Query.edges_eq_listing sound catalogSound
      (show (query.withLabels [.name name]).limit = none from rfl)
    rw [query.listing_withLabels (by simp)] at listed
    refine listed.trans (congrArg Except.ok ?_)
    apply List.filter_congr
    intro edge _
    simp [TypeRef.denotes, eq_comm]
  refine ⟨Query.edges_eq_listing sound catalogSound (show query.limit = none from rfl), under, ?_⟩
  intro edge listed
  have known : edge.label.name ∈ catalog.names .edgeLabel :=
    List.mem_map_of_mem (sound.label_known (Query.mem_listing listed))
  refine ⟨edge.label.name, ⟨known, _, under _, List.mem_filter.2 ⟨listed, by simp⟩⟩, ?_⟩
  rintro name ⟨-, listing, found, among⟩
  rw [under name] at found
  cases found
  exact (of_decide_eq_true (List.mem_filter.1 among).2).symm

end

end Scope

/-! ## Properties under the names of their keys -/

namespace Arena

/-- The property has the smallest id of those that the vertex holds under the name. -/
structure IsFirst (arena : Arena) (owner : VertexId) (name : String) (property : Property) :
    Prop where
  held : property ∈ arena.held owner name
  least : ∀ other ∈ arena.held owner name, property.id.number ≤ other.id.number

def heldBy (arena : Arena) (owner : VertexId) : List Property :=
  arena.liveProperties.filter fun property => property.owner = owner

theorem held_eq_filter (arena : Arena) (owner : VertexId) (name : String) :
    arena.held owner name =
      (arena.heldBy owner).filter fun property => property.key.name = name := by
  rw [held, heldBy, List.filter_filter]
  apply List.filter_congr
  intro property _
  exact Bool.and_comm _ _

/-- The names of the keys that a vertex has properties under, in the order of their first use. -/
def namesHeld (arena : Arena) (owner : VertexId) : List String :=
  ((arena.heldBy owner).map (·.key.name)).eraseDups

theorem mem_namesHeld {arena : Arena} {owner : VertexId} {name : String} :
    name ∈ arena.namesHeld owner ↔ arena.held owner name ≠ [] := by
  rw [namesHeld, List.mem_eraseDups, held_eq_filter, List.mem_map, Ne, List.filter_eq_nil_iff]
  simp

/-- The properties under the names in use are all that the vertex holds. -/
theorem sum_held (arena : Arena) (owner : VertexId) :
    ((arena.namesHeld owner).map fun name => (arena.held owner name).length).sum =
      (arena.heldBy owner).length := by
  simp only [held_eq_filter]
  apply sum_length_filter (fun property : Property => property.key.name)
  · exact nodup_eraseDups _
  · intro property member
    exact List.mem_eraseDups.2 (List.mem_map_of_mem member)

namespace Consistent

variable {arena : Arena} (consistent : arena.Consistent)
include consistent

/-- The property listed first under a name has the smallest id. -/
theorem isFirst_of_cons {owner : VertexId} {name : String} {first : Property}
    {rest : List Property} (holds : arena.held owner name = first :: rest) :
    arena.IsFirst owner name first := by
  have ascending : (arena.held owner name).Pairwise
      fun one other => one.id.number < other.id.number :=
    consistent.liveProperties_ascending.filter _
  rw [holds, List.pairwise_cons] at ascending
  constructor
  · rw [holds]
    exact List.mem_cons_self
  · intro other member
    rw [holds] at member
    rcases List.mem_cons.1 member with rfl | behind
    · exact Nat.le_refl _
    · exact Nat.le_of_lt (ascending.1 other behind)

/-- The names come in the order of the smallest ids under them. -/
theorem namesHeld_ordered (owner : VertexId) :
    (arena.namesHeld owner).Pairwise fun name other => ∀ first second,
      arena.IsFirst owner name first → arena.IsFirst owner other second →
        first.id.number < second.id.number := by
  have ordered := pairwise_eraseDups (fun property : Property => property.key.name)
    (consistent.liveProperties_ascending.filter fun property => property.owner = owner)
  apply ordered.imp
  intro name other precede first second isFirst isSecond
  have later := isSecond.held
  rw [held_eq_filter, List.mem_filter, decide_eq_true_iff] at later
  obtain ⟨earlier, among, named, before⟩ := precede second later.1 later.2
  have held : earlier ∈ arena.held owner name := by
    rw [held_eq_filter, List.mem_filter, decide_eq_true_iff]
    exact ⟨among, named⟩
  exact Nat.lt_of_le_of_lt (isFirst.least earlier held) before

end Consistent

end Arena

namespace Scope

/--
The properties of a vertex are divided by the names of their keys: the names in
use, in the order of the smallest ids under them, and what is listed under each.
-/
structure DividesProperties (scope : Scope) (catalog : Catalog) (vertex : Vertex)
    (names : List String) (under : String → List Property) : Prop where
  used : scope.propertyNames catalog vertex.id = .ok names
  listed : ∀ name, scope.propertiesNamed catalog vertex.id name = .ok (under name)
  once : names.Nodup
  mem_iff : ∀ name, name ∈ names ↔ under name ≠ []
  ordered : names.Pairwise fun name other => ∀ first second,
    scope.arena.IsFirst vertex.id name first → scope.arena.IsFirst vertex.id other second →
      first.id.number < second.id.number
  counted : (names.map fun name => (under name).length).sum = vertex.propertyCount ∧
    (Query.around vertex.id).propertyCount scope catalog = .ok vertex.propertyCount
  value : ∀ name ∈ names, ∃ first, scope.arena.IsFirst vertex.id name first ∧
    scope.value? catalog vertex.id name = .ok (some first.value)
  noValue : ∀ name, name ∉ names → scope.value? catalog vertex.id name = .ok none

section

variable {scope : Scope} {catalog : Catalog} (sound : scope.arena.Sound catalog)
  (catalogSound : catalog.Sound)
include sound catalogSound

theorem propertiesOf_eq (owner : VertexId) :
    scope.propertiesOf catalog owner = .ok (scope.arena.heldBy owner) := by
  have listed := Query.properties_eq_owned sound catalogSound
    (show (Query.around owner).limit = none from rfl)
  refine listed.trans (congrArg Except.ok ?_)
  apply List.filter_congr
  intro property _
  exact Bool.and_true _

theorem value?_eq (owner : VertexId) (name : String) :
    scope.value? catalog owner name =
      .ok ((scope.arena.held owner name).head?.map Property.value) := by
  rw [value?, propertiesNamed_eq sound catalogSound]
  rfl

/-- On a sound arena over a sound catalog names divide the properties of any live vertex. -/
theorem dividesProperties {vertex : Vertex} (live : vertex ∈ scope.arena.vertices.live) :
    scope.DividesProperties catalog vertex (scope.arena.namesHeld vertex.id)
      (scope.arena.held vertex.id) := by
  refine ⟨?_, propertiesNamed_eq sound catalogSound vertex.id, nodup_eraseDups _,
    fun name => Arena.mem_namesHeld, sound.namesHeld_ordered vertex.id, ?_, ?_, ?_⟩
  · rw [propertyNames, propertiesOf_eq sound catalogSound]
    rfl
  · have counted := sound.length_properties live
    constructor
    · rw [Arena.sum_held]
      exact counted.symm
    · have listed := propertiesOf_eq sound catalogSound vertex.id
      rw [propertiesOf] at listed
      rw [Query.propertyCount, listed]
      exact congrArg Except.ok counted.symm
  · intro name used
    rw [value?_eq sound catalogSound]
    cases holds : scope.arena.held vertex.id name with
    | nil => exact absurd holds (Arena.mem_namesHeld.1 used)
    | cons first rest => exact ⟨first, sound.isFirst_of_cons holds, rfl⟩
  · intro name unused
    rw [value?_eq sound catalogSound, not_not.1 (mt Arena.mem_namesHeld.2 unused)]
    rfl

end

end Scope

end PropertyGraph
