import PropertyGraph.Proofs.Query.Descriptor

/-!
# Constraints as sets of groups

The filter of a query is a conjunction of its groups, and each group a
disjunction of its references.  The fold that computes it keeps the order and
the repetitions of the groups, but what the filter lets pass depends only on
which groups there are.  So a query is decided by its last direction, its last
limit and the set of the calls that name something, and one more group takes
away exactly what it does not admit.
-/

namespace PropertyGraph

namespace Directory

variable {δ : Type} [Catalogued δ]

def groupAdmits (directory : Directory δ) (group : List TypeRef) (id : SchemaId) : Bool :=
  group.any fun reference => directory.resolve? reference = some id

/-- The filter lets pass what every group has a reference for. -/
structure Conjoins (directory : Directory δ) (groups : List (List TypeRef))
    (filter : TypeFilter) : Prop where
  admits_iff : ∀ id, filter.admits id = true ↔
    ∀ group ∈ groups, ∃ reference ∈ group, directory.resolve? reference = some id
  unconstrained : groups = [] → ∀ id, filter.admits id = true
  unresolved : ∀ group ∈ groups, (∀ reference ∈ group, directory.resolve? reference = none) →
    ∀ id, filter.admits id = false

/-- The filter made from groups is the conjunction of the groups. -/
theorem typeFilter_conjoins (directory : Directory δ) (groups : List (List TypeRef)) :
    directory.Conjoins groups (directory.typeFilter groups) := by
  have admits_iff (id : SchemaId) : (directory.typeFilter groups).admits id = true ↔
      ∀ group ∈ groups, ∃ reference ∈ group, directory.resolve? reference = some id := by
    simp only [typeFilter_admits, List.all_eq_true, List.any_eq_true, decide_eq_true_eq]
  refine ⟨admits_iff, ?_, ?_⟩
  · rintro rfl id
    exact TypeFilter.any_admits id
  · intro group among unresolved id
    rw [Bool.eq_false_iff]
    intro admitted
    obtain ⟨reference, member, resolved⟩ := (admits_iff id).1 admitted group among
    rw [unresolved reference member] at resolved
    cases resolved

/-- Filters made from the same groups, in any order and number, let the same ids pass. -/
theorem typeFilter_admits_of_mem_iff (directory : Directory δ) {first second : List (List TypeRef)}
    (same : ∀ group, group ∈ first ↔ group ∈ second) (id : SchemaId) :
    (directory.typeFilter first).admits id = (directory.typeFilter second).admits id := by
  rw [Bool.eq_iff_iff, (directory.typeFilter_conjoins first).admits_iff,
    (directory.typeFilter_conjoins second).admits_iff]
  simp only [same]

/-- A group admits the id of a known descriptor if one of its references denotes it. -/
theorem groupAdmits_id {directory : Directory δ} (ordered : directory.Ordered) {entry : δ}
    (known : entry ∈ directory.entries) (group : List TypeRef) :
    directory.groupAdmits group (Catalogued.id entry) =
      group.any fun reference =>
        reference.denotes (Catalogued.id entry) (Catalogued.name entry) := by
  rw [Bool.eq_iff_iff, groupAdmits, List.any_eq_true, List.any_eq_true]
  simp only [decide_eq_true_eq, resolve?_eq_id_iff ordered known]

end Directory

namespace Index

variable {first second : TypeFilter} (same : ∀ id, first.admits id = second.admits id)
  (index : Index)
include same

theorem edges_congr (direction : Direction) :
    index.edges direction first = index.edges direction second := by
  simp only [edges, same]

theorem countEdges_congr (direction : Direction) :
    index.countEdges direction first = index.countEdges direction second := by
  simp only [countEdges_eq, same]

theorem propertiesOf_congr : index.propertiesOf first = index.propertiesOf second := by
  simp only [propertiesOf, same]

end Index

namespace Query

theorem isEmpty_of_mem_iff {first second : List (List TypeRef)}
    (same : ∀ group, group ∈ first ↔ group ∈ second) : first.isEmpty = second.isEmpty := by
  rw [Bool.eq_iff_iff, List.isEmpty_iff, List.isEmpty_iff, List.eq_nil_iff_forall_not_mem,
    List.eq_nil_iff_forall_not_mem]
  simp only [same]

/-- Queries with the same groups of labels and of keys answer alike, whatever the scope holds. -/
theorem read_of_mem_iff {first second : Query} (vertex : first.vertex = second.vertex)
    (direction : first.direction = second.direction) (limit : first.limit = second.limit)
    (labels : ∀ group, group ∈ first.labels ↔ group ∈ second.labels)
    (keys : ∀ group, group ∈ first.keys ↔ group ∈ second.keys) (scope : Scope)
    (catalog : Catalog) : first.read scope catalog = second.read scope catalog := by
  have index : first.index scope = second.index scope := by rw [Query.index, Query.index, vertex]
  have labelled := catalog.edgeLabels.typeFilter_admits_of_mem_iff labels
  have keyed := catalog.propertyKeys.typeFilter_admits_of_mem_iff keys
  apply read_congr vertex limit
  · rw [edgeRelations, edgeRelations, index, direction, vertex]
    exact congrArg (fun entries => scope.arena.allIncident second.vertex (entries.map Prod.snd))
      (Index.edges_congr labelled _ _)
  · rw [propertyRelations, propertyRelations, index, direction, vertex]
    split
    next =>
      exact congrArg (scope.arena.allIncident second.vertex) (Index.propertiesOf_congr keyed _)
    next => rfl
  · rw [edgeCount, edgeCount, index, direction, limit]
    rw [show (second.index scope).countEdges second.direction (first.labelFilter catalog) =
      (second.index scope).countEdges second.direction (second.labelFilter catalog) from
        Index.countEdges_congr labelled _ _]
  · rw [wantsEdges, wantsEdges, isEmpty_of_mem_iff labels, isEmpty_of_mem_iff keys]
  · rw [wantsProperties, wantsProperties, isEmpty_of_mem_iff labels, isEmpty_of_mem_iff keys]

/-! ## Building a query -/

def addGroup (groups : List (List TypeRef)) (group : List TypeRef) : List (List TypeRef) :=
  if group.isEmpty then groups else groups ++ [group]

theorem withLabels_eq (query : Query) (group : List TypeRef) :
    query.withLabels group = query.labelled (addGroup query.labels group) := by
  unfold withLabels addGroup
  split <;> rfl

theorem withKeys_eq (query : Query) (group : List TypeRef) :
    query.withKeys group = query.keyed (addGroup query.keys group) := by
  unfold withKeys addGroup
  split <;> rfl

theorem mem_addGroup {groups : List (List TypeRef)} {given group : List TypeRef} :
    group ∈ addGroup groups given ↔ group ∈ groups ∨ group ≠ [] ∧ group = given := by
  unfold addGroup
  split
  next empty =>
    rw [List.isEmpty_iff] at empty
    subst empty
    simp
  next named =>
    rw [List.isEmpty_iff] at named
    rw [List.mem_append, List.mem_singleton]
    constructor
    · rintro (old | rfl)
      · exact .inl old
      · exact .inr ⟨named, rfl⟩
    · rintro (old | ⟨-, rfl⟩)
      · exact .inl old
      · exact .inr rfl

theorem mem_foldl_addGroup {groups added : List (List TypeRef)} {group : List TypeRef} :
    group ∈ added.foldl addGroup groups ↔ group ∈ groups ∨ group ≠ [] ∧ group ∈ added := by
  induction added generalizing groups with
  | nil => simp
  | cons given rest ih =>
      rw [List.foldl_cons, ih, mem_addGroup, List.mem_cons, or_assoc, ← and_or_left]

/-- A call that changes what a query asks for. -/
inductive Call where
  | toward (direction : Direction)
  | labels (names : List String)
  | edgeLabels (given : List EdgeLabel)
  | keys (names : List String)
  | propertyKeys (given : List PropertyKey)
  | atMost (limit : Nat)

def perform (query : Query) : Call → Query
  | .toward direction => query.toward direction
  | .labels names => query.withLabels (names.map .name)
  | .edgeLabels given => query.withLabels (given.map .toEntry)
  | .keys names => query.withKeys (names.map .name)
  | .propertyKeys given => query.withKeys (given.map .toEntry)
  | .atMost limit => query.atMost limit

def build (query : Query) (calls : List Call) : Query := calls.foldl perform query

namespace Call

def constrains : Call → Bool
  | labels names => !names.isEmpty
  | edgeLabels given => !given.isEmpty
  | keys names => !names.isEmpty
  | propertyKeys given => !given.isEmpty
  | toward _ => false
  | atMost _ => false

def direction? : Call → Option Direction
  | toward direction => some direction
  | _ => none

def limit? : Call → Option Nat
  | atMost limit => some limit
  | _ => none

def labelGroup : Call → List TypeRef
  | labels names => names.map .name
  | edgeLabels given => given.map .toEntry
  | _ => []

def keyGroup : Call → List TypeRef
  | keys names => names.map .name
  | propertyKeys given => given.map .toEntry
  | _ => []

/--
Two lists of calls ask for the same: the direction and the limit that were asked
for last, and the same calls that name something, in any order and number.
-/
structure Agree (first second : List Call) : Prop where
  direction : (first.filterMap direction?).getLast? = (second.filterMap direction?).getLast?
  limit : (first.filterMap limit?).getLast? = (second.filterMap limit?).getLast?
  constraints : ∀ call, call.constrains = true → (call ∈ first ↔ call ∈ second)

theorem constrains_of_labelGroup {call : Call} (named : call.labelGroup ≠ []) :
    call.constrains = true := by
  cases call with
  | labels names => simpa [labelGroup, constrains] using named
  | edgeLabels given => simpa [labelGroup, constrains] using named
  | _ => exact absurd rfl named

theorem constrains_of_keyGroup {call : Call} (named : call.keyGroup ≠ []) :
    call.constrains = true := by
  cases call with
  | keys names => simpa [keyGroup, constrains] using named
  | propertyKeys given => simpa [keyGroup, constrains] using named
  | _ => exact absurd rfl named

/-- What was asked for last, was asked for by the later calls or else by the first one. -/
theorem getLast?_filterMap_cons {α : Type} (asked? : Call → Option α) (call : Call)
    (rest : List Call) : ((call :: rest).filterMap asked?).getLast? =
      (rest.filterMap asked?).getLast?.or (asked? call) := by
  cases asked : asked? call with
  | none => rw [List.filterMap_cons_none asked, Option.or_none]
  | some answer =>
      rw [List.filterMap_cons_some asked, List.getLast?_cons]
      cases (rest.filterMap asked?).getLast? <;> rfl

/-- The groups of agreeing calls are the same, if only calls that name something have one. -/
theorem Agree.mem_map_iff {first second : List Call} (agree : Agree first second)
    {groupOf : Call → List TypeRef}
    (constrains : ∀ {call : Call}, groupOf call ≠ [] → call.constrains = true)
    (group : List TypeRef) :
    group ≠ [] ∧ group ∈ first.map groupOf ↔ group ≠ [] ∧ group ∈ second.map groupOf := by
  simp only [List.mem_map]
  apply and_congr_right
  intro named
  apply exists_congr
  intro call
  apply and_congr_left
  rintro rfl
  exact agree.constraints call (constrains named)

end Call

/-- What a call changes: the direction, the limit, or one of the lists of groups. -/
theorem perform_eq (query : Query) (call : Call) :
    query.perform call =
      ⟨query.vertex, call.direction?.getD query.direction, addGroup query.labels call.labelGroup,
        addGroup query.keys call.keyGroup, call.limit?.or query.limit⟩ := by
  cases call with
  | toward direction => rfl
  | labels names => exact query.withLabels_eq _
  | edgeLabels given => exact query.withLabels_eq _
  | keys names => exact query.withKeys_eq _
  | propertyKeys given => exact query.withKeys_eq _
  | atMost limit => rfl

/-- What calls lead to: the last direction, the last limit, and the groups in their order. -/
theorem build_eq (query : Query) (calls : List Call) :
    query.build calls =
      ⟨query.vertex, (calls.filterMap Call.direction?).getLast?.getD query.direction,
        (calls.map Call.labelGroup).foldl addGroup query.labels,
        (calls.map Call.keyGroup).foldl addGroup query.keys,
        (calls.filterMap Call.limit?).getLast?.or query.limit⟩ := by
  induction calls generalizing query with
  | nil => rfl
  | cons call rest ih =>
      rw [build, List.foldl_cons, ← build, ih, perform_eq]
      simp only [Call.getLast?_filterMap_cons, List.map_cons, List.foldl_cons, Option.getD_or,
        Option.or_assoc]

/-- Calls that ask for the same lead to queries that answer alike. -/
theorem read_build_of_agree {first second : List Call} (agree : Call.Agree first second)
    (query : Query) (scope : Scope) (catalog : Catalog) :
    (query.build first).read scope catalog = (query.build second).read scope catalog := by
  rw [build_eq, build_eq, agree.direction, agree.limit]
  apply read_of_mem_iff
  · rfl
  · rfl
  · rfl
  · intro group
    simp only [mem_foldl_addGroup, agree.mem_map_iff Call.constrains_of_labelGroup]
  · intro group
    simp only [mem_foldl_addGroup, agree.mem_map_iff Call.constrains_of_keyGroup]

/-! ## One more group -/

theorem cut_of_unlimited {query : Query} (unlimited : query.limit = none) {α : Type}
    (answers : List α) : query.cut answers = answers := by
  rw [cut, unlimited]

section

variable (query : Query) {group : List TypeRef} (named : group ≠ [])

theorem edges_withKeys (scope : Scope) (catalog : Catalog) :
    (query.withKeys group).edges scope catalog = query.edges scope catalog := by
  rw [withKeys_eq]
  rfl

include named

theorem meansLabel_withLabels (label : EdgeLabel) :
    (query.withLabels group).meansLabel label =
      (query.meansLabel label && group.any (·.denotes label.id label.name)) := by
  rw [withLabels, if_neg (by simpa using named)]
  simp [meansLabel, TypeRef.allDenote]

theorem meansKey_withKeys (key : PropertyKey) :
    (query.withKeys group).meansKey key =
      (query.meansKey key && group.any (·.denotes key.id key.name)) := by
  rw [withKeys, if_neg (by simpa using named)]
  simp [meansKey, TypeRef.allDenote]

/-- Of any edges one more group of labels keeps, among those meant, the ones that it denotes. -/
theorem filter_meansLabel_withLabels (keep : Edge → Bool) (edges : List Edge) :
    (edges.filter fun edge => keep edge && (query.withLabels group).meansLabel edge.label) =
      (edges.filter fun edge => keep edge && query.meansLabel edge.label).filter fun edge =>
        group.any (·.denotes edge.label.id edge.label.name) := by
  rw [List.filter_filter]
  apply List.filter_congr
  intro edge _
  rw [query.meansLabel_withLabels named, ← Bool.and_assoc, Bool.and_comm]

/-- One more group of labels keeps, of the edges listed, those that it denotes. -/
theorem listing_withLabels (arena : Arena) :
    (query.withLabels group).listing arena =
      (query.listing arena).filter fun edge =>
        group.any (·.denotes edge.label.id edge.label.name) := by
  have vertex : (query.withLabels group).vertex = query.vertex := by
    rw [withLabels_eq]
    rfl
  have direction : (query.withLabels group).direction = query.direction := by
    rw [withLabels_eq]
    rfl
  have starts := query.filter_meansLabel_withLabels named (·.source = query.vertex) arena.liveEdges
  have ends := query.filter_meansLabel_withLabels named (·.target = query.vertex) arena.liveEdges
  simp only [listing, outgoing, incoming, starting, ending, vertex, direction, starts, ends,
    List.filter_append]
  congr 1
  · split <;> rfl
  · split
    next => rw [List.filter_comm]
    next => rfl

/-- One more group of keys keeps, of the properties listed, those that it denotes. -/
theorem owned_withKeys (arena : Arena) :
    (query.withKeys group).owned arena =
      (query.owned arena).filter fun property =>
        group.any (·.denotes property.key.id property.key.name) := by
  have direction : (query.withKeys group).direction = query.direction := by
    rw [withKeys_eq]
    rfl
  rw [owned, owned, direction]
  split
  next =>
    rw [List.filter_filter]
    apply List.filter_congr
    intro property _
    rw [query.meansKey_withKeys named, ← Bool.and_assoc, Bool.and_comm, withKeys_eq]
    rfl
  next => rfl

end

theorem mem_listing {query : Query} {arena : Arena} {edge : Edge}
    (listed : edge ∈ query.listing arena) : edge ∈ arena.liveEdges := by
  rcases List.mem_append.1 listed with out | into
  · exact (mem_outgoing out).1
  · exact (mem_incoming into).1

/-- One more group takes away what it does not admit, and a group of keys leaves the edges. -/
structure Narrows (query : Query) (scope : Scope) (catalog : Catalog) : Prop where
  labelled : ∀ group, group ≠ [] → ∃ edges, query.edges scope catalog = .ok edges ∧
    (query.withLabels group).edges scope catalog =
      .ok (edges.filter fun edge => catalog.edgeLabels.groupAdmits group edge.label.id)
  keyed : ∀ group, group ≠ [] → ∃ properties, query.properties scope catalog = .ok properties ∧
    (query.withKeys group).properties scope catalog =
      .ok (properties.filter fun property =>
        catalog.propertyKeys.groupAdmits group property.key.id)
  keyed_edges : ∀ group, (query.withKeys group).edges scope catalog = query.edges scope catalog

section

variable {scope : Scope} {catalog : Catalog} (sound : scope.arena.Sound catalog)
  (catalogSound : catalog.Sound) {query : Query} (unlimited : query.limit = none)
include sound catalogSound unlimited

theorem edges_eq_listing : query.edges scope catalog = .ok (query.listing scope.arena) := by
  rw [(query.scans sound catalogSound).edges, cut_of_unlimited unlimited]
  rfl

theorem properties_eq_owned : query.properties scope catalog = .ok (query.owned scope.arena) := by
  rw [(query.scans sound catalogSound).properties, cut_of_unlimited unlimited]

/-- On a sound arena over a sound catalog a query without a limit narrows group by group. -/
theorem narrows : query.Narrows scope catalog := by
  refine ⟨?_, ?_, fun group => query.edges_withKeys scope catalog⟩
  · intro group named
    refine ⟨_, edges_eq_listing sound catalogSound unlimited, ?_⟩
    have still : (query.withLabels group).limit = none := by
      rw [withLabels_eq]
      exact unlimited
    rw [edges_eq_listing sound catalogSound still, query.listing_withLabels named]
    congr 1
    apply List.filter_congr
    intro edge listed
    exact (Directory.groupAdmits_id catalogSound.edgeLabels
      (sound.label_known (mem_listing listed)) group).symm
  · intro group named
    refine ⟨_, properties_eq_owned sound catalogSound unlimited, ?_⟩
    have still : (query.withKeys group).limit = none := by
      rw [withKeys_eq]
      exact unlimited
    rw [properties_eq_owned sound catalogSound still, query.owned_withKeys named]
    congr 1
    apply List.filter_congr
    intro property listed
    exact (Directory.groupAdmits_id catalogSound.propertyKeys
      (sound.key_known (mem_owned listed).1) group).symm

end

end Query

end PropertyGraph
