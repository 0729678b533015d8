import PropertyGraph.Proofs.Scope.Soundness
import PropertyGraph.Proofs.Scope.Storing

/-!
# Scopes that agree up to schema ids

Two scopes that differ in schema ids only are asked the same, by names, over
two catalogs that grew out of one base under one policy.  Unless a schema id is
missing, they answer the same and differ in schema ids only afterwards: names
are resolved to descriptors that differ in their ids only, and nothing else
depends on an id.
-/

namespace PropertyGraph

/-- Results that are the same after a change are both refused, or both had. -/
theorem map_eq_map_cases {ε α β : Type} {first second : Except ε α} {change : α → β}
    (same : first.map change = second.map change) :
    (∃ failure, first = .error failure ∧ second = .error failure) ∨
      ∃ value other, first = .ok value ∧ second = .ok other ∧ change value = change other := by
  cases first with
  | error failure =>
      cases second with
      | error other =>
          cases same
          exact .inl ⟨failure, rfl, rfl⟩
      | ok other => cases same
  | ok value =>
      cases second with
      | error failure => cases same
      | ok other => exact .inr ⟨value, other, rfl, rfl, Except.ok.inj same⟩

namespace Scope

/-- The scope with all schema ids taken away. -/
def unnumbered (scope : Scope) : Scope :=
  { scope with
    defaultLabel := scope.defaultLabel.unnumbered
    arena := scope.arena.unnumbered
    checkpoint := scope.checkpoint.map Arena.unnumbered }

def Answer.unnumbered : Answer → Answer
  | vertex id => vertex id
  | edge e => edge e.unnumbered
  | property p => property p.unnumbered
  | relation r => relation r.unnumbered
  | modified count => modified count

def Request.ByName : Request → Prop
  | addEdgeWithLabel _ _ _ => False
  | addPropertyWithKey _ _ _ => False
  | addVertex => True
  | addVertexWithLabel _ => True
  | addEdge _ _ _ => True
  | addProperty _ _ _ => True
  | removeRelation _ => True
  | commit => True
  | rollback => True

end Scope

/-- The outcomes have the same result and lead to the same scope, schema ids apart. -/
structure Outcome.Agrees (first second : Outcome Scope.Answer) : Prop where
  result : first.result.map Scope.Answer.unnumbered = second.result.map Scope.Answer.unnumbered
  scope : first.scope.unnumbered = second.scope.unnumbered

/-- The operation failed since no schema id was left. -/
def Outcome.Exhausted {α : Type} (outcome : Outcome α) : Prop :=
  ∃ error, error.Exhausts ∧ outcome.result = .error (.error error)

theorem Outcome.Exhausted.map {α β : Type} {change : α → β} {outcome : Outcome α}
    (exhausted : outcome.Exhausted) : (outcome.map change).Exhausted := by
  obtain ⟨error, exhausts, failed⟩ := exhausted
  exact ⟨error, exhausts, congrArg (Except.map change) failed⟩

namespace Scope

/-- A sound scope of the policy, over a catalog that grew out of the base under this policy. -/
structure Shares (policy : Policy) (base : Catalog) (scope : Scope) (catalog : Catalog) :
    Prop where
  sound : scope.Sound catalog
  catalogSound : catalog.Sound
  interns : base.Interns policy catalog
  policy : scope.config.policy = policy

theorem missing?_unnumbered (scope : Scope) (ids : List VertexId) :
    scope.unnumbered.missing? ids = scope.missing? ids := by
  have contains (id : VertexId) :
      scope.unnumbered.containsVertex id = scope.containsVertex id := by
    change (scope.arena.unnumbered.vertex? id).isSome = (scope.arena.vertex? id).isSome
    rw [Arena.vertex?_unnumbered, Option.isSome_map]
  simp only [missing?, contains]

theorem commit_unnumbered (scope : Scope) :
    scope.unnumbered.commit = scope.commit.map id unnumbered := by
  have count := scope.arena.length_modifiedVertices_unnumbered
  have kept := scope.arena.unmark_unnumbered
  apply Prod.ext
  · exact count
  · change ({ scope.unnumbered with
      arena := scope.arena.unnumbered.unmark
      checkpoint := some scope.arena.unnumbered.unmark } : Scope) = _
    rw [kept]
    rfl

theorem rollback_unnumbered (scope : Scope) :
    scope.unnumbered.rollback = scope.rollback.map id unnumbered := by
  have count := scope.arena.length_modifiedVertices_unnumbered
  have base : scope.unnumbered.base = scope.base.unnumbered := by
    change (scope.checkpoint.map Arena.unnumbered).getD .fresh =
      (scope.checkpoint.getD .fresh).unnumbered
    cases scope.checkpoint <;> rfl
  apply Prod.ext
  · exact count
  · change ({ scope.unnumbered with
      arena := (scope.unnumbered.base.withSlotsOf scope.arena.unnumbered).unmark } : Scope) = _
    rw [base, Arena.withSlotsOf_unnumbered, Arena.unmark_unnumbered]
    rfl

section

variable {first second : Scope} (same : first.unnumbered = second.unnumbered)
  {firstCatalog secondCatalog : Catalog}
include same

theorem arenas_eq : first.arena.unnumbered = second.arena.unnumbered := congrArg Scope.arena same

theorem missing?_congr (ids : List VertexId) : first.missing? ids = second.missing? ids := by
  rw [← missing?_unnumbered, same, missing?_unnumbered]

theorem refuse_agrees {α : Type} (wrap : α → Answer) (error : GraphError) :
    ((first.refuse firstCatalog error).map wrap).Agrees
      ((second.refuse secondCatalog error).map wrap) :=
  ⟨rfl, same⟩

theorem conclude_agrees {α : Type} (wrap : α → Answer) (strip : α → α)
    (wraps : ∀ answer, (wrap answer).unnumbered = wrap (strip answer)) {done other : α × Arena}
    (agree : done.map strip Arena.unnumbered = other.map strip Arena.unnumbered) :
    ((first.conclude firstCatalog (.ok done)).map wrap).Agrees
      ((second.conclude secondCatalog (.ok other)).map wrap) := by
  obtain ⟨answers, arenas⟩ := Prod.ext_iff.1 agree
  constructor
  · change Except.ok (wrap done.1).unnumbered = Except.ok (wrap other.1).unnumbered
    rw [wraps, wraps]
    exact congrArg (fun answer => Except.ok (wrap answer)) answers
  · have sameArena : done.2.unnumbered = other.2.unnumbered := arenas
    change { first.unnumbered with arena := done.2.unnumbered } =
      { second.unnumbered with arena := other.2.unnumbered }
    rw [same, sameArena]

theorem addVertex_agrees {label other : VertexLabel}
    (labels : label.unnumbered = other.unnumbered) :
    ((first.conclude firstCatalog (.ok (first.arena.addVertex label))).map .vertex).Agrees
      ((second.conclude secondCatalog (.ok (second.arena.addVertex other))).map .vertex) := by
  apply conclude_agrees same Answer.vertex id (fun _ => rfl)
  rw [← Arena.addVertex_unnumbered, ← Arena.addVertex_unnumbered, arenas_eq same, labels]

theorem attachEdge_agrees (firstSound : first.arena.Consistent)
    (secondSound : second.arena.Consistent) {source target : VertexId}
    (live : second.missing? [source, target] = none)
    {label other : EdgeLabel} (labels : label.unnumbered = other.unnumbered) :
    ((first.conclude firstCatalog (first.arena.attachEdge source label target)).map .edge).Agrees
      ((second.conclude secondCatalog
        (second.arena.attachEdge source other target)).map .edge) := by
  have firstLive := missing?_eq_none_iff.1 ((missing?_congr same _).trans live)
  have secondLive := missing?_eq_none_iff.1 live
  rw [firstSound.attachEdge_eq_attach (firstLive source (by simp)) (firstLive target (by simp)),
    secondSound.attachEdge_eq_attach (secondLive source (by simp)) (secondLive target (by simp))]
  apply conclude_agrees same Answer.edge Edge.unnumbered (fun _ => rfl)
  change (first.arena.connect source label target).map _ _ =
    (second.arena.connect source other target).map _ _
  rw [← Arena.connect_unnumbered, ← Arena.connect_unnumbered, arenas_eq same, labels]

theorem addValue_agrees (firstSound : first.arena.Sound firstCatalog)
    (firstCatalogSound : firstCatalog.Sound) (secondSound : second.arena.Sound secondCatalog)
    (secondCatalogSound : secondCatalog.Sound) {owner : VertexId}
    (live : second.missing? [owner] = none) {key other : PropertyKey}
    (known : key ∈ firstCatalog.propertyKeys.entries)
    (otherKnown : other ∈ secondCatalog.propertyKeys.entries)
    (keys : key.unnumbered = other.unnumbered) (value : Value) :
    ((first.addValue firstCatalog owner key value).map .property).Agrees
      ((second.addValue secondCatalog owner other value).map .property) := by
  have firstLive := missing?_eq_none_iff.1 ((missing?_congr same _).trans live) owner (by simp)
  have secondLive := missing?_eq_none_iff.1 live owner (by simp)
  obtain ⟨-, names, dataTypes, -⟩ := PropertyKey.mk.inj keys
  unfold addValue
  rw [dataTypes, names, firstSound.storeValue_eq_storeNamed firstCatalogSound known firstLive,
    secondSound.storeValue_eq_storeNamed secondCatalogSound otherKnown secondLive]
  split
  next =>
    apply conclude_agrees same Answer.property Property.unnumbered (fun _ => rfl)
    rw [← Arena.storeNamed_unnumbered, ← Arena.storeNamed_unnumbered, arenas_eq same, keys]
  next => exact refuse_agrees same .property _

theorem removeRelation_agrees (firstSound : first.arena.Consistent)
    (secondSound : second.arena.Consistent) (id : RelationId) :
    ((first.removeRelation firstCatalog id).map .relation).Agrees
      ((second.removeRelation secondCatalog id).map .relation) := by
  have found : (first.arena.relation? id).map Relation.unnumbered =
      (second.arena.relation? id).map Relation.unnumbered := by
    rw [← Arena.relation?_unnumbered, ← Arena.relation?_unnumbered, arenas_eq same]
  unfold removeRelation
  cases firstFound : first.arena.relation? id with
  | none =>
      rw [firstFound] at found
      have secondFound := Option.map_eq_none_iff.1 found.symm
      rw [Arena.Consistent.detach_eq_none firstFound, Arena.Consistent.detach_eq_none secondFound]
      exact refuse_agrees same .relation _
  | some relation =>
      rw [firstFound] at found
      obtain ⟨other, secondFound, relations⟩ := Option.map_eq_some_iff.1 found.symm
      rw [firstSound.detach_eq_release firstFound, secondSound.detach_eq_release secondFound]
      apply conclude_agrees same Answer.relation Relation.unnumbered (fun _ => rfl)
      apply Prod.ext
      · exact relations.symm
      · change (first.arena.release relation).unnumbered = (second.arena.release other).unnumbered
        rw [← Arena.release_unnumbered, ← Arena.release_unnumbered, arenas_eq same, relations]

variable {policy : Policy} {base : Catalog} (baseSound : base.Sound)
  (firstShares : first.Shares policy base firstCatalog)
  (secondShares : second.Shares policy base secondCatalog)
include baseSound firstShares secondShares

theorem addVertexWithLabel_agrees {name : String}
    (firstEnough : ¬ (first.addVertexWithLabel firstCatalog name).Exhausted)
    (secondEnough : ¬ (second.addVertexWithLabel secondCatalog name).Exhausted) :
    ((first.addVertexWithLabel firstCatalog name).map .vertex).Agrees
      ((second.addVertexWithLabel secondCatalog name).map .vertex) := by
  simp only [addVertexWithLabel, firstShares.policy, secondShares.policy]
    at firstEnough secondEnough ⊢
  have agreed := firstShares.interns.vertexLabel_agrees secondShares.interns baseSound
    firstShares.catalogSound secondShares.catalogSound name
    (fun error exhausts failed => firstEnough ⟨error, exhausts, by rw [failed]; rfl⟩)
    (fun error exhausts failed => secondEnough ⟨error, exhausts, by rw [failed]; rfl⟩)
  rcases map_eq_map_cases agreed with
    ⟨error, firstFailed, secondFailed⟩ | ⟨label, other, firstFound, secondFound, labels⟩
  · rw [firstFailed, secondFailed]
    exact refuse_agrees same .vertex error
  · rw [firstFound, secondFound]
    exact addVertex_agrees same labels

theorem addEdge_agrees {source target : VertexId} {name : String}
    (firstEnough : ¬ (first.addEdge firstCatalog source name target).Exhausted)
    (secondEnough : ¬ (second.addEdge secondCatalog source name target).Exhausted) :
    ((first.addEdge firstCatalog source name target).map .edge).Agrees
      ((second.addEdge secondCatalog source name target).map .edge) := by
  simp only [addEdge, firstShares.policy, secondShares.policy, missing?_congr same]
    at firstEnough secondEnough ⊢
  cases live : second.missing? [source, target] with
  | some vertex => exact refuse_agrees same .edge _
  | none =>
      simp only [live] at firstEnough secondEnough
      have agreed := firstShares.interns.edgeLabel_agrees secondShares.interns baseSound
        firstShares.catalogSound secondShares.catalogSound name
        (fun error exhausts failed => firstEnough ⟨error, exhausts, by rw [failed]; rfl⟩)
        (fun error exhausts failed => secondEnough ⟨error, exhausts, by rw [failed]; rfl⟩)
      rcases map_eq_map_cases agreed with
        ⟨error, firstFailed, secondFailed⟩ | ⟨label, other, firstFound, secondFound, labels⟩
      · rw [firstFailed, secondFailed]
        exact refuse_agrees same .edge error
      · rw [firstFound, secondFound]
        exact attachEdge_agrees same firstShares.sound.arena.toConsistent
          secondShares.sound.arena.toConsistent live labels

theorem addProperty_agrees {owner : VertexId} {name : String} {value : Value}
    (firstEnough : ¬ (first.addProperty firstCatalog owner name value).Exhausted)
    (secondEnough : ¬ (second.addProperty secondCatalog owner name value).Exhausted) :
    ((first.addProperty firstCatalog owner name value).map .property).Agrees
      ((second.addProperty secondCatalog owner name value).map .property) := by
  simp only [addProperty, firstShares.policy, secondShares.policy, missing?_congr same]
    at firstEnough secondEnough ⊢
  cases live : second.missing? [owner] with
  | some vertex => exact refuse_agrees same .property _
  | none =>
      simp only [live] at firstEnough secondEnough
      have agreed := firstShares.interns.propertyKey_agrees secondShares.interns baseSound
        firstShares.catalogSound secondShares.catalogSound name
        (fun error exhausts failed => firstEnough ⟨error, exhausts, by rw [failed]; rfl⟩)
        (fun error exhausts failed => secondEnough ⟨error, exhausts, by rw [failed]; rfl⟩)
      rcases map_eq_map_cases agreed with
        ⟨error, firstFailed, secondFailed⟩ | ⟨key, other, firstFound, secondFound, keys⟩
      · rw [firstFailed, secondFailed]
        exact refuse_agrees same .property error
      · rw [firstFound, secondFound]
        obtain ⟨firstLeads, known⟩ := firstShares.catalogSound.propertyKey firstFound
        obtain ⟨secondLeads, otherKnown⟩ := secondShares.catalogSound.propertyKey secondFound
        exact addValue_agrees same (firstShares.sound.arena.grow firstLeads.grows)
          firstLeads.sound (secondShares.sound.arena.grow secondLeads.grows)
          secondLeads.sound live known otherKnown keys value

/-- Asked the same by names, scopes that differ in schema ids only agree. -/
theorem serve_agrees {request : Request} (byName : request.ByName)
    (firstEnough : ¬ (first.serve firstCatalog request).Exhausted)
    (secondEnough : ¬ (second.serve secondCatalog request).Exhausted) :
    (first.serve firstCatalog request).Agrees (second.serve secondCatalog request) := by
  cases request with
  | addVertex => exact addVertex_agrees same (congrArg Scope.defaultLabel same)
  | addVertexWithLabel name =>
      exact addVertexWithLabel_agrees same baseSound firstShares secondShares
        (fun exhausted => firstEnough exhausted.map) fun exhausted => secondEnough exhausted.map
  | addEdge source name target =>
      exact addEdge_agrees same baseSound firstShares secondShares
        (fun exhausted => firstEnough exhausted.map) fun exhausted => secondEnough exhausted.map
  | addProperty owner name value =>
      exact addProperty_agrees same baseSound firstShares secondShares
        (fun exhausted => firstEnough exhausted.map) fun exhausted => secondEnough exhausted.map
  | removeRelation id =>
      exact removeRelation_agrees same firstShares.sound.arena.toConsistent
        secondShares.sound.arena.toConsistent id
  | commit =>
      have committed := congrArg Scope.commit same
      rw [commit_unnumbered, commit_unnumbered, Prod.ext_iff] at committed
      exact ⟨congrArg (fun count => Except.ok (Answer.modified count)) committed.1, committed.2⟩
  | rollback =>
      have restored := congrArg Scope.rollback same
      rw [rollback_unnumbered, rollback_unnumbered, Prod.ext_iff] at restored
      exact ⟨congrArg (fun count => Except.ok (Answer.modified count)) restored.1, restored.2⟩
  | addEdgeWithLabel source label target => exact byName.elim
  | addPropertyWithKey owner key value => exact byName.elim

end

theorem Sound.serve_config {scope : Scope} {catalog : Catalog} (sound : scope.Sound catalog)
    (catalogSound : catalog.Sound) (request : Request) :
    (scope.serve catalog request).scope.config = scope.config := by
  rcases (sound.serve_effect catalogSound request).edits_or_teardown with
    ⟨arena, same, -⟩ | ⟨-, same⟩ | ⟨-, same⟩
  · rw [same]
  · rw [same]
    rfl
  · rw [same]
    rfl

theorem conclude_catalog {α : Type} (scope : Scope) (catalog : Catalog)
    (done : Except Violation (α × Arena)) : (scope.conclude catalog done).catalog = catalog := by
  cases done <;> rfl

theorem addValue_catalog (scope : Scope) (catalog : Catalog) (owner : VertexId)
    (key : PropertyKey) (value : Value) :
    (scope.addValue catalog owner key value).catalog = catalog := by
  unfold addValue
  split
  next => exact conclude_catalog _ _ _
  next => rfl

namespace Shares

variable {policy : Policy} {base : Catalog} {scope : Scope} {catalog : Catalog}
  {request : Request}

/-- What a request by name adds to the catalog is interned under the policy. -/
theorem serve_interns (shares : scope.Shares policy base catalog) (byName : request.ByName) :
    base.Interns policy (scope.serve catalog request).catalog := by
  have interns := shares.interns
  cases request with
  | addVertex => exact interns
  | addVertexWithLabel name =>
      simp only [serve, addVertexWithLabel, shares.policy]
      cases resolved : catalog.vertexLabel policy name with
      | error error => exact interns
      | ok answer => exact interns.vertexLabel shares.catalogSound resolved
  | addEdge source name target =>
      simp only [serve, addEdge, shares.policy]
      cases live : scope.missing? [source, target] with
      | some vertex => exact interns
      | none =>
          cases resolved : catalog.edgeLabel policy name with
          | error error => exact interns
          | ok answer =>
              obtain ⟨label, grown⟩ := answer
              change base.Interns policy
                (scope.conclude grown (scope.arena.attachEdge source label target)).catalog
              rw [conclude_catalog]
              exact interns.edgeLabel shares.catalogSound resolved
  | addEdgeWithLabel source label target => exact byName.elim
  | addProperty owner name value =>
      simp only [serve, addProperty, shares.policy]
      cases live : scope.missing? [owner] with
      | some vertex => exact interns
      | none =>
          cases resolved : catalog.propertyKey policy name with
          | error error => exact interns
          | ok answer =>
              change base.Interns policy (scope.addValue answer.2 owner answer.1 value).catalog
              rw [addValue_catalog]
              exact interns.propertyKey shares.catalogSound resolved
  | addPropertyWithKey owner key value => exact byName.elim
  | removeRelation id =>
      simp only [serve, removeRelation]
      cases scope.arena.detach id with
      | error violation => exact interns
      | ok detached =>
          cases detached with
          | none => exact interns
          | some released => exact interns
  | commit => exact interns
  | rollback => exact interns

theorem serve (shares : scope.Shares policy base catalog) (byName : request.ByName) :
    (scope.serve catalog request).scope.Shares policy base
      (scope.serve catalog request).catalog := by
  obtain ⟨leads, sound⟩ := shares.sound.serve shares.catalogSound request
  refine ⟨sound, leads.sound, shares.serve_interns byName, ?_⟩
  rw [shares.sound.serve_config shares.catalogSound, shares.policy]

/-- A request by name to another scope leaves a scope as it is over a grown catalog. -/
theorem serve_other {other : Scope} (shares : scope.Shares policy base catalog)
    (otherShares : other.Shares policy base catalog) (byName : request.ByName) :
    scope.Shares policy base (other.serve catalog request).catalog := by
  have leads := (otherShares.sound.serve shares.catalogSound request).1
  exact ⟨shares.sound.grow leads.grows, leads.sound, otherShares.serve_interns byName,
    shares.policy⟩

end Shares

end Scope

end PropertyGraph
