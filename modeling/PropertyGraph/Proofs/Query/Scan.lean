import PropertyGraph.Proofs.Incidence.Counting
import PropertyGraph.Proofs.Query.Reference
import PropertyGraph.Proofs.Scope.Effect

/-!
# Queries as scans

What a query should answer can be read off the live relations alone, without
any index and without the catalog: the edges that start at the vertex, those
that end there, and the properties it owns, each in ascending order of the ids.
On a sound arena over a sound catalog every terminal of a query answers this.
-/

namespace PropertyGraph

namespace Relation

/-- The relations that are edges of some sort are the edges of this sort. -/
theorem filter_edges (keep : Edge → Bool) (relations : List Relation) :
    relations.filter (fun relation => relation.edge?.any keep) =
      ((relations.filterMap edge?).filter keep).map edge := by
  induction relations with
  | nil => rfl
  | cons relation rest ih =>
      cases relation with
      | edge e => cases kept : keep e <;> simp [kept, ih]
      | property p => simpa [List.filterMap_cons] using ih

/-- The relations that are properties of some sort are the properties of this sort. -/
theorem filter_properties (keep : Property → Bool) (relations : List Relation) :
    relations.filter (fun relation => relation.property?.any keep) =
      ((relations.filterMap property?).filter keep).map property := by
  induction relations with
  | nil => rfl
  | cons relation rest ih =>
      cases relation with
      | edge e => simpa [List.filterMap_cons] using ih
      | property p => cases kept : keep p <;> simp [kept, ih]

@[simp] theorem filterMap_edge?_map (edges : List Edge) :
    (edges.map edge).filterMap edge? = edges := by
  simp [List.filterMap_map, Function.comp_def]

@[simp] theorem filterMap_property?_map (properties : List Property) :
    (properties.map property).filterMap property? = properties := by
  simp [List.filterMap_map, Function.comp_def]

end Relation

namespace Query

/-- Whether every group of labels means the label. -/
def meansLabel (query : Query) (label : EdgeLabel) : Bool :=
  TypeRef.allDenote query.labels label.id label.name

def meansKey (query : Query) (key : PropertyKey) : Bool :=
  TypeRef.allDenote query.keys key.id key.name

def starting (query : Query) (arena : Arena) : List Edge :=
  arena.liveEdges.filter fun edge => edge.source = query.vertex && query.meansLabel edge.label

def ending (query : Query) (arena : Arena) : List Edge :=
  arena.liveEdges.filter fun edge => edge.target = query.vertex && query.meansLabel edge.label

def outgoing (query : Query) (arena : Arena) : List Edge :=
  if query.direction.admits .outgoing then query.starting arena else []

/-- The edges to be listed as incoming; under both directions a loop is none of them. -/
def incoming (query : Query) (arena : Arena) : List Edge :=
  if query.direction.admits .incoming then
    (query.ending arena).filter fun edge => query.direction ≠ .both || !edge.isLoop
  else []

/-- The number of edge ends at the vertex; under both directions a loop has two. -/
def degree (query : Query) (arena : Arena) : Nat :=
  (if query.direction.admits .outgoing then (query.starting arena).length else 0) +
    (if query.direction.admits .incoming then (query.ending arena).length else 0)

/-- The live properties of the vertex under a meant key; they count as outgoing. -/
def owned (query : Query) (arena : Arena) : List Property :=
  if query.direction.admits .outgoing then
    arena.liveProperties.filter fun property =>
      property.owner = query.vertex && query.meansKey property.key
  else []

/-- The edges, unless only keys are named, and the properties, unless only labels are named. -/
def surroundings (query : Query) (arena : Arena) : List Relation :=
  (if query.labels.isEmpty && !query.keys.isEmpty then []
    else (query.outgoing arena ++ query.incoming arena).map .edge) ++
  (if query.keys.isEmpty && !query.labels.isEmpty then []
    else (query.owned arena).map .property)

/-- Every terminal of the query answers what a scan of the live relations does. -/
structure Scans (query : Query) (scope : Scope) (catalog : Catalog) : Prop where
  edges : query.edges scope catalog =
    .ok (query.cut (query.outgoing scope.arena ++ query.incoming scope.arena))
  properties : query.properties scope catalog = .ok (query.cut (query.owned scope.arena))
  relations : query.relations scope catalog = .ok (query.cut (query.surroundings scope.arena))
  vertices : query.vertices scope catalog =
    .ok (query.cut ((query.outgoing scope.arena).map Edge.target ++
      (query.incoming scope.arena).map Edge.source))
  count : query.count scope catalog = .ok (query.cut (query.surroundings scope.arena)).length
  edgeCount : query.edgeCount scope catalog =
    query.limit.elim (query.degree scope.arena) (min (query.degree scope.arena))
  propertyCount : query.propertyCount scope catalog =
    .ok (query.cut (query.owned scope.arena)).length

theorem cut_map (query : Query) {α β : Type} (change : α → β) (answers : List α) :
    query.cut (answers.map change) = (query.cut answers).map change := by
  unfold cut
  split
  next => rfl
  next => exact List.map_take.symm

theorem mem_of_mem_cut {query : Query} {α : Type} {answer : α} {answers : List α}
    (member : answer ∈ query.cut answers) : answer ∈ answers := by
  unfold cut at member
  split at member
  next => exact member
  next => exact List.mem_of_mem_take member

section

variable {arena : Arena} {catalog : Catalog}

/-- Entries of relations that are live and incident on the vertex lead back to the relations. -/
theorem allIncident_entries (consistent : arena.Consistent) {vertex : VertexId}
    {relations : List Relation} (live : ∀ relation ∈ relations, relation ∈ arena.relations.live)
    (incident : ∀ relation ∈ relations, relation.isIncidentOn vertex = true) :
    arena.allIncident vertex (relations.map Relation.entry) = .ok relations := by
  induction relations with
  | nil => rfl
  | cons relation rest ih =>
      rw [List.forall_mem_cons] at live incident
      have found := consistent.mem_live_iff.1 live.1
      have first : arena.incident vertex relation.entry = .ok relation := by
        simp [Arena.incident, found, Option.filter, incident.1]
      rw [List.map_cons, Arena.allIncident, first, ih live.2 incident.2]
      rfl

/-- The index of the queried vertex is that of the live relations, also without the vertex. -/
theorem index_eq (query : Query) {scope : Scope} (consistent : scope.arena.Consistent) :
    query.index scope = .ofRelations query.vertex scope.arena.relations.live := by
  unfold index
  cases found : scope.arena.vertex? query.vertex with
  | some vertex => exact consistent.index_eq found
  | none =>
      exact (Index.file_eq_self .empty fun relation live =>
        consistent.isIncidentOn_eq_false found live).symm

theorem mem_outgoing {query : Query} {edge : Edge} (listed : edge ∈ query.outgoing arena) :
    edge ∈ arena.liveEdges ∧ edge.source = query.vertex := by
  unfold outgoing at listed
  split at listed
  next =>
    obtain ⟨live, kept⟩ := List.mem_filter.1 listed
    rw [Bool.and_eq_true, decide_eq_true_iff] at kept
    exact ⟨live, kept.1⟩
  next => cases listed

theorem mem_incoming {query : Query} {edge : Edge} (listed : edge ∈ query.incoming arena) :
    edge ∈ arena.liveEdges ∧ edge.target = query.vertex := by
  unfold incoming at listed
  split at listed
  next =>
    obtain ⟨live, kept⟩ := List.mem_filter.1 (List.mem_of_mem_filter listed)
    rw [Bool.and_eq_true, decide_eq_true_iff] at kept
    exact ⟨live, kept.1⟩
  next => cases listed

theorem mem_owned {query : Query} {property : Property} (listed : property ∈ query.owned arena) :
    property ∈ arena.liveProperties ∧ property.owner = query.vertex := by
  unfold owned at listed
  split at listed
  next =>
    obtain ⟨live, kept⟩ := List.mem_filter.1 listed
    rw [Bool.and_eq_true, decide_eq_true_iff] at kept
    exact ⟨live, kept.1⟩
  next => cases listed

/-- The other ends of the listed edges, whatever part of the list is kept. -/
theorem cut_other? (query : Query) (arena : Arena) :
    (query.cut (query.outgoing arena ++ query.incoming arena)).filterMap
        (·.other? query.vertex) =
      query.cut ((query.outgoing arena).map Edge.target ++
        (query.incoming arena).map Edge.source) := by
  let across (edge : Edge) : VertexId :=
    if edge.source = query.vertex then edge.target else edge.source
  have total : ∀ edge ∈ query.cut (query.outgoing arena ++ query.incoming arena),
      edge.other? query.vertex = some (across edge) := by
    intro edge kept
    by_cases starts : edge.source = query.vertex
    · simp [Edge.other?, across, starts]
    · rcases List.mem_append.1 (mem_of_mem_cut kept) with out | into
      · exact absurd (mem_outgoing out).2 starts
      · simp [Edge.other?, across, starts, (mem_incoming into).2]
  have targets : (query.outgoing arena).map Edge.target = (query.outgoing arena).map across := by
    apply List.map_congr_left
    intro edge listed
    simp [across, (mem_outgoing listed).2]
  have sources : (query.incoming arena).map Edge.source = (query.incoming arena).map across := by
    apply List.map_congr_left
    intro edge listed
    by_cases starts : edge.source = query.vertex
    · simp [across, starts, (mem_incoming listed).2]
    · simp [across, starts]
  rw [targets, sources, ← List.map_append, cut_map, List.filterMap_congr total,
    List.filterMap_eq_map']

end

section

variable {scope : Scope} {catalog : Catalog} (sound : scope.arena.Sound catalog)
  (catalogSound : catalog.Sound) (query : Query)
include sound catalogSound

/-- Of a live edge the filter admits the label's id if the query means the label. -/
theorem labelFilter_admits {edge : Edge} (live : edge ∈ scope.arena.liveEdges) :
    (query.labelFilter catalog).admits edge.label.id = query.meansLabel edge.label :=
  Directory.typeFilter_admits_id catalogSound.edgeLabels (sound.label_known live) _

/-- Of a live property the filter admits the key's id if the query means the key. -/
theorem keyFilter_admits {property : Property} (live : property ∈ scope.arena.liveProperties) :
    (query.keyFilter catalog).admits property.key.id = query.meansKey property.key :=
  Directory.typeFilter_admits_id catalogSound.propertyKeys (sound.key_known live) _

/-- Entries of live edges pass the filter if the query means the label. -/
theorem edge_entries (keep : Edge → Bool) :
    ((scope.arena.relations.live.filter fun relation => relation.edge?.any keep).map
        Relation.entry).filter (fun entry => (query.labelFilter catalog).admits entry.typeId) =
      ((scope.arena.liveEdges.filter fun edge => keep edge && query.meansLabel edge.label).map
        .edge).map Relation.entry := by
  rw [Relation.filter_edges, List.filter_map, List.filter_map, List.filter_filter]
  congr 2
  apply List.filter_congr
  intro edge live
  have admitted := labelFilter_admits sound catalogSound query live
  simp [Relation.entry, admitted, Bool.and_comm]

theorem starting_entries :
    (query.index scope).outgoing.filter
        (fun entry => (query.labelFilter catalog).admits entry.typeId) =
      ((query.starting scope.arena).map .edge).map Relation.entry := by
  rw [query.index_eq sound.toConsistent]
  exact edge_entries sound catalogSound query (·.startsFrom query.vertex)

theorem ending_entries :
    (query.index scope).incoming.filter
        (fun entry => (query.labelFilter catalog).admits entry.typeId) =
      ((query.ending scope.arena).map .edge).map Relation.entry := by
  rw [query.index_eq sound.toConsistent]
  exact edge_entries sound catalogSound query (·.endsAt query.vertex)

theorem owned_entries :
    (query.index scope).propertiesOf (query.keyFilter catalog) =
      ((scope.arena.liveProperties.filter fun property =>
        property.owner = query.vertex && query.meansKey property.key).map
          .property).map Relation.entry := by
  have held : scope.arena.relations.live.filter (·.isOwnedBy query.vertex) =
      (scope.arena.liveProperties.filter (·.owner = query.vertex)).map .property :=
    Relation.filter_properties _ _
  rw [Index.propertiesOf, query.index_eq sound.toConsistent, Index.properties_ofRelations, held,
    List.filter_map, List.filter_map, List.filter_filter]
  congr 2
  apply List.filter_congr
  intro property live
  have admitted := keyFilter_admits sound catalogSound query live
  simp [Relation.entry, admitted, Bool.and_comm]

theorem edgeRelations_eq :
    query.edgeRelations scope catalog =
      .ok ((query.outgoing scope.arena ++ query.incoming scope.arena).map .edge) := by
  have entries : ((query.index scope).edges query.direction (query.labelFilter catalog)).map
        Prod.snd =
      ((query.outgoing scope.arena ++ query.incoming scope.arena).map .edge).map
        Relation.entry := by
    rw [Index.edges_entries, starting_entries sound catalogSound,
      ending_entries sound catalogSound, List.map_append, List.map_append, outgoing, incoming]
    congr 1
    · split <;> rfl
    · split
      next =>
        rw [List.filter_map, List.filter_map]
        rfl
      next => rfl
  have member : ∀ relation ∈ (query.outgoing scope.arena ++ query.incoming scope.arena).map
      Relation.edge, relation ∈ scope.arena.relations.live ∧
        relation.isIncidentOn query.vertex = true := by
    intro relation listed
    obtain ⟨edge, among, rfl⟩ := List.mem_map.1 listed
    rcases List.mem_append.1 among with out | into
    · obtain ⟨live, starts⟩ := mem_outgoing out
      exact ⟨Arena.mem_liveEdges.1 live, by simp [Relation.isIncidentOn, starts]⟩
    · obtain ⟨live, ends⟩ := mem_incoming into
      exact ⟨Arena.mem_liveEdges.1 live, by simp [Relation.isIncidentOn, ends]⟩
  simp only [edgeRelations, entries]
  exact allIncident_entries sound.toConsistent (fun relation listed => (member relation listed).1)
    fun relation listed => (member relation listed).2

theorem propertyRelations_eq :
    query.propertyRelations scope catalog = .ok ((query.owned scope.arena).map .property) := by
  have member : ∀ relation ∈ (query.owned scope.arena).map Relation.property,
      relation ∈ scope.arena.relations.live ∧ relation.isIncidentOn query.vertex = true := by
    intro relation listed
    obtain ⟨property, among, rfl⟩ := List.mem_map.1 listed
    obtain ⟨live, owned⟩ := mem_owned among
    exact ⟨Arena.mem_liveProperties.1 live, by simp [Relation.isIncidentOn, owned]⟩
  have followed := allIncident_entries sound.toConsistent
    (fun relation listed => (member relation listed).1)
    fun relation listed => (member relation listed).2
  unfold propertyRelations
  split
  next wanted =>
    rw [owned_entries sound catalogSound]
    simpa only [owned, if_pos wanted] using followed
  next unwanted => simp [owned, unwanted]

/-- On a sound arena over a sound catalog every terminal answers what a scan does. -/
theorem scans : query.Scans scope catalog := by
  have edgesFound := edgeRelations_eq sound catalogSound query
  have propertiesFound := propertyRelations_eq sound catalogSound query
  have edges : query.edges scope catalog =
      .ok (query.cut (query.outgoing scope.arena ++ query.incoming scope.arena)) := by
    rw [Query.edges, edgesFound, Except.map, Relation.filterMap_edge?_map]
  have properties : query.properties scope catalog =
      .ok (query.cut (query.owned scope.arena)) := by
    rw [Query.properties, propertiesFound, Except.map, Relation.filterMap_property?_map]
  have relations : query.relations scope catalog =
      .ok (query.cut (query.surroundings scope.arena)) := by
    simp only [Query.relations, wantsEdges, wantsProperties, edgesFound, propertiesFound,
      surroundings]
    cases query.labels.isEmpty <;> cases query.keys.isEmpty <;> rfl
  refine ⟨edges, properties, relations, ?_, ?_, ?_, ?_⟩
  · rw [Query.vertices, edges, Except.map, cut_other?]
  · rw [Query.count, relations, Except.map]
  · have counted : (query.index scope).countEdges query.direction (query.labelFilter catalog) =
        query.degree scope.arena := by
      rw [Index.countEdges_eq, starting_entries sound catalogSound,
        ending_entries sound catalogSound, degree]
      simp only [List.length_map]
    rw [Query.edgeCount, counted]
    cases query.limit <;> rfl
  · rw [Query.propertyCount, properties, Except.map]

end

end Query

end PropertyGraph
