import PropertyGraph.Proofs.Arena.Edit
import PropertyGraph.Scope.Request

/-!
# What a request does

Everything that a request can do to a scope and its catalog is listed once, as
an `Effect`: it is refused, it adds a vertex, an edge or a property, it finds a
property of a set, it removes a relation, or it is a teardown.  On a sound
scope and catalog every request has such an effect; in particular it does not
end with a broken promise.
-/

namespace PropertyGraph

namespace Arena

namespace Consistent

variable {arena : Arena} {owner : VertexId}

/-- The ids under a key are those of the relations that the vertex owns under it. -/
theorem propertyIds_eq (consistent : arena.Consistent) (live : (arena.vertex? owner).isSome)
    (key : SchemaId) :
    arena.propertyIds owner key =
      (arena.relations.live.filter fun relation =>
        relation.isOwnedBy owner && relation.typeId = key).map Relation.id := by
  obtain ⟨vertex, found⟩ := Option.isSome_iff_exists.1 live
  have indexed := consistent.index_eq found
  simp only [propertyIds, found, indexed, Index.propertiesOf, Index.properties_ofRelations,
    List.filter_map, List.map_map, List.filter_filter]
  have ids : Entry.relation ∘ Relation.entry = Relation.id := by
    funext relation
    exact relation.entry_relation
  rw [ids]
  congr 2
  funext relation
  rw [Bool.eq_iff_iff]
  simp [TypeFilter.admits, and_comm]

/-- The properties that a vertex holds under a key, in ascending order of their ids. -/
theorem heldProperties_eq (consistent : arena.Consistent) (live : (arena.vertex? owner).isSome)
    (key : SchemaId) :
    (arena.propertyIds owner key).filterMap arena.property? =
      arena.liveProperties.filter fun property =>
        property.owner = owner && property.key.id = key := by
  rw [consistent.propertyIds_eq live, List.filterMap_map, List.filterMap_filter, liveProperties,
    List.filter_filterMap]
  apply List.filterMap_congr
  intro relation member
  simp only [Function.comp_apply, property?, consistent.mem_live_iff.1 member]
  cases relation with
  | edge e => simp [Relation.isOwnedBy, Relation.property?]
  | property p =>
      simp only [Relation.isOwnedBy, Relation.property?, Relation.typeId, Option.filter,
        Option.any_some]
      rfl

/-- Storing a value finds an equal one in a set, or attaches a new property. -/
theorem storeValue_cases (consistent : arena.Consistent) (live : (arena.vertex? owner).isSome)
    (key : PropertyKey) (value : Value) :
    (∃ property ∈ arena.liveProperties, key.cardinality = .set ∧ property.owner = owner ∧
        property.key.id = key.id ∧ property.value.equal value = true ∧
        Scope.storeValue arena owner key value = .ok (property, arena)) ∨
      ∃ cleared, arena.Releases cleared ∧
        Scope.storeValue arena owner key value =
          .ok (⟨⟨arena.relations.next⟩, key, owner, value⟩,
            cleared.attach (.property ⟨⟨arena.relations.next⟩, key, owner, value⟩)) := by
  cases cardinality : key.cardinality with
  | single =>
      obtain ⟨cleared, detached, releases, -⟩ :=
        consistent.detachAll_eq_ok (arena.propertyIds owner key.id)
      have attached := (releases.consistent consistent).attachProperty_eq_attach
        (by rw [releases.vertexLive]; exact live) key value
      rw [releases.relations_next] at attached
      refine .inr ⟨cleared, releases, ?_⟩
      simp only [Scope.storeValue, cardinality, detached, attached]
  | list =>
      refine .inr ⟨arena, .refl, ?_⟩
      simp only [Scope.storeValue, cardinality, consistent.attachProperty_eq_attach live]
  | set =>
      have held := consistent.heldProperties_eq live key.id
      cases found : ((arena.propertyIds owner key.id).filterMap arena.property?).find?
          fun property => property.value.equal value with
      | none =>
          refine .inr ⟨arena, .refl, ?_⟩
          simp only [Scope.storeValue, cardinality, found,
            consistent.attachProperty_eq_attach live]
      | some property =>
          have member := List.mem_of_find?_eq_some found
          rw [held, List.mem_filter, Bool.and_eq_true, decide_eq_true_iff,
            decide_eq_true_iff] at member
          refine .inl ⟨property, member.1, rfl, member.2.1, member.2.2,
            by simpa using List.find?_some found, ?_⟩
          simp only [Scope.storeValue, cardinality, found]

end Consistent

end Arena

namespace Scope

/-- The arena as of the last commit, or the fresh one before the first commit. -/
def base (scope : Scope) : Arena := scope.checkpoint.getD .fresh

/-- The current arena and the last committed one are sound, and the first follows the second. -/
structure Sound (scope : Scope) (catalog : Catalog) : Prop where
  arena : scope.arena.Sound catalog
  base : scope.base.Sound catalog
  base_unmarked : scope.base.unmark = scope.base
  follows : scope.arena.Follows scope.base
  defaultLabel_known : scope.defaultLabel ∈ catalog.vertexLabels.entries

/-- Everything that a request can lead to. -/
inductive Effect (scope : Scope) (catalog : Catalog) : Request → Outcome Answer → Prop where
  | refuse {request : Request} {grown : Catalog} (leads : catalog.Leads grown)
      (error : GraphError) :
      Effect scope catalog request ⟨.error (.error error), scope, grown⟩
  | addVertex {request : Request} {grown : Catalog} (leads : catalog.Leads grown)
      (label : VertexLabel) (known : label ∈ grown.vertexLabels.entries) :
      Effect scope catalog request
        ⟨.ok (.vertex ⟨scope.arena.vertices.next⟩),
          { scope with arena := (scope.arena.addVertex label).2 }, grown⟩
  | addEdge {request : Request} {grown : Catalog} (leads : catalog.Leads grown) (edge : Edge)
      (known : edge.label ∈ grown.edgeLabels.entries)
      (numbered : edge.id.number = scope.arena.relations.next)
      (live : ∀ id ∈ (Relation.edge edge).endpoints, (scope.arena.vertex? id).isSome) :
      Effect scope catalog request
        ⟨.ok (.edge edge), { scope with arena := scope.arena.attach (.edge edge) }, grown⟩
  | addProperty {request : Request} {grown : Catalog} (leads : catalog.Leads grown)
      (property : Property) (known : property.key ∈ grown.propertyKeys.entries)
      (numbered : property.id.number = scope.arena.relations.next)
      (live : (scope.arena.vertex? property.owner).isSome) {cleared : Arena}
      (releases : scope.arena.Releases cleared) :
      Effect scope catalog request
        ⟨.ok (.property property), { scope with arena := cleared.attach (.property property) },
          grown⟩
  | findProperty {request : Request} {grown : Catalog} (leads : catalog.Leads grown)
      (property : Property) (live : property ∈ scope.arena.liveProperties)
      (set : property.key.cardinality = .set) :
      Effect scope catalog request ⟨.ok (.property property), scope, grown⟩
  | removeRelation {request : Request} (relation : Relation)
      (live : relation ∈ scope.arena.relations.live) :
      Effect scope catalog request
        ⟨.ok (.relation relation), { scope with arena := scope.arena.release relation }, catalog⟩
  | commit : Effect scope catalog .commit
      ⟨.ok (.modified scope.commit.1), scope.commit.2, catalog⟩
  | rollback : Effect scope catalog .rollback
      ⟨.ok (.modified scope.rollback.1), scope.rollback.2, catalog⟩

theorem missing?_eq_none_iff {scope : Scope} {ids : List VertexId} :
    scope.missing? ids = none ↔ ∀ id ∈ ids, (scope.arena.vertex? id).isSome := by
  simp [missing?, containsVertex, Option.isSome_iff_ne_none]

section

variable {scope : Scope} {catalog : Catalog} (sound : scope.Sound catalog)
include sound

theorem Sound.attachEdge_effect {request : Request} {grown : Catalog} (leads : catalog.Leads grown)
    {source target : VertexId} (live : scope.missing? [source, target] = none) {label : EdgeLabel}
    (known : label ∈ grown.edgeLabels.entries) :
    Effect scope catalog request
      ((scope.conclude grown (scope.arena.attachEdge source label target)).map .edge) := by
  rw [missing?_eq_none_iff] at live
  have sourceLive := live source (by simp)
  have targetLive := live target (by simp)
  rw [sound.arena.attachEdge_eq_attach sourceLive targetLive]
  apply Effect.addEdge leads _ known rfl
  intro id endpoint
  rw [Relation.mem_endpoints_iff] at endpoint
  simp only [Relation.isIncidentOn, Bool.or_eq_true, decide_eq_true_eq] at endpoint
  rcases endpoint with rfl | rfl
  · exact sourceLive
  · exact targetLive

theorem Sound.addValue_effect {request : Request} {grown : Catalog} (leads : catalog.Leads grown)
    {owner : VertexId} (live : scope.missing? [owner] = none) {key : PropertyKey}
    (known : key ∈ grown.propertyKeys.entries) (value : Value) :
    Effect scope catalog request ((scope.addValue grown owner key value).map .property) := by
  have ownerLive := missing?_eq_none_iff.1 live owner (by simp)
  unfold addValue
  split
  next =>
    rcases sound.arena.storeValue_cases ownerLive key (key.dataType.coerce value) with
      ⟨property, member, set, -, sameKey, -, stored⟩ | ⟨cleared, releases, stored⟩
    · rw [stored]
      apply Effect.findProperty leads property member
      have propertyKnown := leads.grows.propertyKeys.mem (sound.arena.key_known member)
      rw [leads.sound.propertyKeys.eq_of_id propertyKnown known sameKey]
      exact set
    · rw [stored]
      exact Effect.addProperty leads _ known rfl ownerLive releases
  next => exact Effect.refuse leads _

/-- On a sound scope and catalog every request has one of the listed effects. -/
theorem Sound.serve_effect (catalogSound : catalog.Sound) (request : Request) :
    Effect scope catalog request (scope.serve catalog request) := by
  cases request with
  | addVertex => exact .addVertex catalogSound.leads_refl _ sound.defaultLabel_known
  | addVertexWithLabel name =>
      simp only [serve, addVertexWithLabel]
      cases resolved : catalog.vertexLabel scope.config.policy name with
      | error error => exact .refuse catalogSound.leads_refl error
      | ok answer =>
          obtain ⟨leads, known⟩ := catalogSound.vertexLabel resolved
          exact .addVertex leads answer.1 known
  | addEdge source name target =>
      simp only [serve, addEdge]
      cases live : scope.missing? [source, target] with
      | some vertex => exact .refuse catalogSound.leads_refl _
      | none =>
          cases resolved : catalog.edgeLabel scope.config.policy name with
          | error error => exact .refuse catalogSound.leads_refl error
          | ok answer =>
              obtain ⟨leads, known⟩ := catalogSound.edgeLabel resolved
              exact sound.attachEdge_effect leads live known
  | addEdgeWithLabel source label target =>
      simp only [serve, addEdgeWithLabel]
      cases live : scope.missing? [source, target] with
      | some vertex => exact .refuse catalogSound.leads_refl _
      | none =>
          cases matched : catalog.edgeLabels.matching? label.id label.name with
          | none => exact .refuse catalogSound.leads_refl _
          | some known =>
              have member := (catalogSound.edgeLabels.matching?_eq_some_iff.1 matched).1
              exact sound.attachEdge_effect catalogSound.leads_refl live member
  | addProperty owner name value =>
      simp only [serve, addProperty]
      cases live : scope.missing? [owner] with
      | some vertex => exact .refuse catalogSound.leads_refl _
      | none =>
          cases resolved : catalog.propertyKey scope.config.policy name with
          | error error => exact .refuse catalogSound.leads_refl error
          | ok answer =>
              obtain ⟨leads, known⟩ := catalogSound.propertyKey resolved
              exact sound.addValue_effect leads live known value
  | addPropertyWithKey owner key value =>
      simp only [serve, addPropertyWithKey]
      cases live : scope.missing? [owner] with
      | some vertex => exact .refuse catalogSound.leads_refl _
      | none =>
          cases matched : catalog.propertyKeys.matching? key.id key.name with
          | none => exact .refuse catalogSound.leads_refl _
          | some known =>
              have member := (catalogSound.propertyKeys.matching?_eq_some_iff.1 matched).1
              exact sound.addValue_effect catalogSound.leads_refl live member value
  | removeRelation id =>
      simp only [serve, removeRelation]
      cases found : scope.arena.relation? id with
      | none =>
          rw [Arena.Consistent.detach_eq_none found]
          exact .refuse catalogSound.leads_refl _
      | some relation =>
          rw [sound.arena.detach_eq_release found]
          exact .removeRelation relation (Arena.Consistent.mem_live_of_relation? found)
  | commit => exact .commit
  | rollback => exact .rollback

end

end Scope

end PropertyGraph
