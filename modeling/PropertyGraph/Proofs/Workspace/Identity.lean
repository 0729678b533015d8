import Mathlib.Data.List.Pairwise
import PropertyGraph.Proofs.Scope.Event
import PropertyGraph.Proofs.Workspace.Run

/-!
# Ids denote one thing

In the course of a run the scope of a position goes through moments, and its
requests are events between them.  New vertices and new relations are numbered
upwards, through commits and rollbacks, and whatever relations are found or
answered under one id are the same, so that comparing ids is comparing
relations.
-/

namespace PropertyGraph

namespace Relation

/-- Relations that compare as the same have one id. -/
theorem id_eq_of_same {first second : Relation} (same : first.same second = true) :
    first.id = second.id := by
  cases first with
  | edge e =>
      cases second with
      | edge other => exact of_decide_eq_true same
      | property other => cases same
  | property p =>
      cases second with
      | edge other => cases same
      | property other => exact of_decide_eq_true same

theorem same_self (relation : Relation) : relation.same relation = true := by
  cases relation with
  | edge e => exact decide_eq_true rfl
  | property p => exact decide_eq_true rfl

end Relation

namespace Workspace

def event? (workspace : Workspace) (position : Nat) (step : Step) : Option Event :=
  (step.requestTo? position).bind fun request =>
    workspace.scopes[position]?.map fun scope => ⟨scope, scope.serve workspace.catalog request⟩

/-- The events of the scope of a position in the course of a run. -/
def events (workspace : Workspace) (position : Nat) : List Step → List Event
  | [] => []
  | step :: rest =>
    (workspace.event? position step).toList ++ (workspace.serve step).2.events position rest

/-- The scopes of a position in the states that a run goes through. -/
def moments (workspace : Workspace) (position : Nat) : List Step → List Scope
  | [] => workspace.scopes[position]?.toList
  | step :: rest =>
    workspace.scopes[position]?.toList ++ (workspace.serve step).2.moments position rest

/-- The relation is found at some moment of the run, or some event answers with it. -/
def Meets (workspace : Workspace) (position : Nat) (steps : List Step) (relation : Relation) :
    Prop :=
  (∃ moment ∈ workspace.moments position steps,
      moment.arena.relation? relation.id = some relation) ∨
    ∃ event ∈ workspace.events position steps, event.answered? = some relation

/-- In the course of the run an id denotes one thing. -/
structure Identifies (workspace : Workspace) (position : Nat) (steps : List Step) : Prop where
  vertices_ascend : ((workspace.events position steps).filterMap Event.newVertex?).Pairwise
    fun first second => first.number < second.number
  vertices_positive : ∀ id ∈ (workspace.events position steps).filterMap Event.newVertex?,
    id.number ≠ 0
  relations_ascend : ((workspace.events position steps).filterMap Event.newRelation?).Pairwise
    fun first second => first.number < second.number
  relations_positive : ∀ id ∈ (workspace.events position steps).filterMap Event.newRelation?,
    id.number ≠ 0
  refound : ∀ event ∈ workspace.events position steps, ∀ property,
    event.outcome.result = .ok (.property property) →
      (event.before.arena.relation? property.id).isSome →
        property.key.cardinality = .set ∧
          event.before.arena.relation? property.id = some (.property property) ∧
          event.outcome.scope = event.before
  live_twice : ∀ first ∈ workspace.moments position steps,
    ∀ second ∈ workspace.moments position steps, ∀ id found other,
      first.arena.relation? id = some found → second.arena.relation? id = some other →
        found = other
  handle : ∀ event ∈ workspace.events position steps, ∀ answered,
    event.answered? = some answered → ∀ moment ∈ workspace.moments position steps,
      moment.arena.relation? answered.id = none ∨
        moment.arena.relation? answered.id = some answered
  same_iff : ∀ first second, workspace.Meets position steps first →
    workspace.Meets position steps second → (first.same second = true ↔ first = second)

section

variable {workspace : Workspace} {position : Nat}

/-- An event is a served request of the current scope, which it takes to the next one. -/
theorem event?_eq_some (sound : workspace.Sound) {step : Step} {event : Event}
    (happens : workspace.event? position step = some event) :
    event.Served ∧ workspace.scopes[position]? = some event.before ∧
      (workspace.serve step).2.scopes[position]? = some event.outcome.scope := by
  obtain ⟨request, asked, served⟩ := Option.bind_eq_some_iff.1 happens
  obtain ⟨scope, opened, rfl⟩ := Option.map_eq_some_iff.1 served
  rw [Step.requestTo?_eq_some_iff] at asked
  subst asked
  have scopeSound := sound.scopeAt opened
  exact ⟨⟨workspace.catalog, request, scopeSound, scopeSound.serve_effect sound.catalog request⟩,
    opened, scope_serve_scope opened request⟩

/-- The scope after a step succeeds the scope before it. -/
theorem succeeds_serve (sound : workspace.Sound) {scope : Scope}
    (opened : workspace.scopes[position]? = some scope) (step : Step) :
    ∃ next, (workspace.serve step).2.scopes[position]? = some next ∧ next.Succeeds scope := by
  cases asked : step.requestTo? position with
  | none => exact ⟨scope, scope_serve_of_none asked opened, .refl scope⟩
  | some request =>
      rw [Step.requestTo?_eq_some_iff] at asked
      subst asked
      have scopeSound := sound.scopeAt opened
      have effect := scopeSound.serve_effect sound.catalog request
      exact ⟨_, scope_serve_scope opened request, effect.succeeds scopeSound⟩

theorem mem_moments_self {scope : Scope} (opened : workspace.scopes[position]? = some scope)
    (steps : List Step) : scope ∈ workspace.moments position steps := by
  cases steps with
  | nil => simp [moments, opened]
  | cons step rest => simp [moments, opened]

theorem moments_sound (sound : workspace.Sound) {steps : List Step} {moment : Scope}
    (member : moment ∈ workspace.moments position steps) : ∃ catalog, moment.Sound catalog := by
  induction steps generalizing workspace with
  | nil => exact ⟨_, sound.scopeAt (Option.mem_toList.1 member)⟩
  | cons step rest ih =>
      rcases List.mem_append.1 member with here | later
      · exact ⟨_, sound.scopeAt (Option.mem_toList.1 here)⟩
      · exact ih (sound.serve step).2 later

/-- Every moment of a run succeeds the first. -/
theorem moments_succeed (sound : workspace.Sound) {scope : Scope}
    (opened : workspace.scopes[position]? = some scope) {steps : List Step} {moment : Scope}
    (member : moment ∈ workspace.moments position steps) : moment.Succeeds scope := by
  induction steps generalizing workspace scope with
  | nil =>
      cases opened.symm.trans (Option.mem_toList.1 member)
      exact .refl _
  | cons step rest ih =>
      rcases List.mem_append.1 member with here | later
      · cases opened.symm.trans (Option.mem_toList.1 here)
        exact .refl _
      · obtain ⟨next, reached, succeeds⟩ := succeeds_serve sound opened step
        exact succeeds.trans (ih (sound.serve step).2 reached later)

/-- Of two moments of a run the later succeeds the earlier. -/
theorem moments_pairwise (sound : workspace.Sound) (steps : List Step) :
    (workspace.moments position steps).Pairwise fun earlier later => later.Succeeds earlier := by
  induction steps generalizing workspace with
  | nil => exact Option.pairwise_toList
  | cons step rest ih =>
      refine List.pairwise_append.2 ⟨Option.pairwise_toList, ih (sound.serve step).2, ?_⟩
      intro earlier here later member
      obtain ⟨next, reached, succeeds⟩ :=
        succeeds_serve sound (Option.mem_toList.1 here) step
      exact succeeds.trans (moments_succeed (sound.serve step).2 reached member)

/-- The scopes before and after an event are moments of the run. -/
theorem events_moments (sound : workspace.Sound) {steps : List Step} {event : Event}
    (member : event ∈ workspace.events position steps) :
    event.Served ∧ event.before ∈ workspace.moments position steps ∧
      event.outcome.scope ∈ workspace.moments position steps := by
  induction steps generalizing workspace with
  | nil => cases member
  | cons step rest ih =>
      rcases List.mem_append.1 member with here | later
      · obtain ⟨served, before, reached⟩ := event?_eq_some sound (Option.mem_toList.1 here)
        exact ⟨served, mem_moments_self before _,
          List.mem_append_right _ (mem_moments_self reached rest)⟩
      · obtain ⟨served, before, reached⟩ := ih (sound.serve step).2 later
        exact ⟨served, List.mem_append_right _ before, List.mem_append_right _ reached⟩

/-- Of two events of a run the later one finds a scope that succeeds the outcome of the earlier. -/
theorem events_pairwise (sound : workspace.Sound) (steps : List Step) :
    (workspace.events position steps).Pairwise
      fun earlier later => later.before.Succeeds earlier.outcome.scope := by
  induction steps generalizing workspace with
  | nil => exact .nil
  | cons step rest ih =>
      have nextSound := (sound.serve step).2
      refine List.pairwise_append.2 ⟨Option.pairwise_toList, ih nextSound, ?_⟩
      intro earlier here later member
      obtain ⟨-, -, reached⟩ := event?_eq_some sound (Option.mem_toList.1 here)
      exact moments_succeed nextSound reached (events_moments nextSound member).2.1

/-- Numbers that events take from a counter that never goes down ascend from above zero. -/
theorem numbers_ascend (sound : workspace.Sound) (position : Nat) (steps : List Step) {ι : Type}
    {new? : Event → Option ι} {number : ι → Nat} {next : Scope → Nat}
    (taken : ∀ {event : Event} {id : ι}, event.Served → new? event = some id →
      number id ≠ 0 ∧ next event.before ≤ number id ∧ number id < next event.outcome.scope)
    (grows : ∀ {later earlier : Scope}, later.Succeeds earlier → next earlier ≤ next later) :
    (((workspace.events position steps).filterMap new?).Pairwise
        fun first second => number first < number second) ∧
      ∀ id ∈ (workspace.events position steps).filterMap new?, number id ≠ 0 := by
  constructor
  · rw [List.pairwise_filterMap]
    apply (events_pairwise sound steps).imp_of_mem
    intro earlier later earlierMember laterMember succeeds first firstNew second secondNew
    obtain ⟨-, -, below⟩ := taken (events_moments sound earlierMember).1 firstNew
    obtain ⟨-, above, -⟩ := taken (events_moments sound laterMember).1 secondNew
    exact Nat.lt_of_lt_of_le below (Nat.le_trans (grows succeeds) above)
  · intro id member
    obtain ⟨event, happened, new⟩ := List.mem_filterMap.1 member
    exact (taken (events_moments sound happened).1 new).1

/-- A relation that is found at a moment of the run is met under the id it is found by. -/
theorem meets_of_relation? (sound : workspace.Sound) {steps : List Step} {moment : Scope}
    (member : moment ∈ workspace.moments position steps) {id : RelationId} {relation : Relation}
    (live : moment.arena.relation? id = some relation) :
    relation.id = id ∧ workspace.Meets position steps relation := by
  obtain ⟨catalog, momentSound⟩ := moments_sound sound member
  have same := momentSound.arena.id_of_relation? live
  exact ⟨same, .inl ⟨moment, member, same ▸ live⟩⟩

/-- A relation that a run meets is known at one of its moments. -/
theorem Meets.known (sound : workspace.Sound) {steps : List Step} {relation : Relation}
    (meets : workspace.Meets position steps relation) :
    ∃ moment ∈ workspace.moments position steps, moment.Knows relation := by
  rcases meets with ⟨moment, member, live⟩ | ⟨event, member, answered⟩
  · exact ⟨moment, member, .inl live⟩
  · obtain ⟨served, before, reached⟩ := events_moments sound member
    rcases served.answered?_known answered with known | known
    · exact ⟨event.before, before, known⟩
    · exact ⟨event.outcome.scope, reached, known⟩

/-- Two relations of one id that a run meets are one relation. -/
theorem Meets.eq_of_id (sound : workspace.Sound) {steps : List Step} {first second : Relation}
    (firstMet : workspace.Meets position steps first)
    (secondMet : workspace.Meets position steps second) (same : first.id = second.id) :
    first = second := by
  let agree (one other : Scope) : Prop := ∀ found answered, one.Knows found →
    other.Knows answered → found.id = answered.id → found = answered
  have symmetric : Std.Symm agree :=
    ⟨fun _ _ agrees found answered foundKnown answeredKnown same =>
      (agrees answered found answeredKnown foundKnown same.symm).symm⟩
  have reflexive : ∀ moment ∈ workspace.moments position steps, agree moment moment := by
    intro moment member
    obtain ⟨catalog, momentSound⟩ := moments_sound sound member
    exact fun found answered foundKnown answeredKnown same =>
      momentSound.eq_of_id foundKnown answeredKnown same
  have ordered : (workspace.moments position steps).Pairwise agree := by
    apply (moments_pairwise sound steps).imp_of_mem
    intro earlier later member _ succeeds
    obtain ⟨catalog, earlierSound⟩ := moments_sound sound member
    exact fun found answered foundKnown answeredKnown same =>
      succeeds.eq_of_id earlierSound foundKnown answeredKnown same
  obtain ⟨one, oneMember, firstKnown⟩ := firstMet.known sound
  obtain ⟨other, otherMember, secondKnown⟩ := secondMet.known sound
  exact ordered.forall_of_forall reflexive oneMember otherMember first second firstKnown
    secondKnown same

end

/--
In every run of a reachable workspace, through any commits and rollbacks, the
ids of the vertices that a scope adds ascend from above zero, and so do those of
the edges and properties it adds, in one sequence; only a property of a set that
is present already is answered without being added.  A relation that is live at
two moments is the same at both, an answered one is at every moment either not
live or the live one of its id, and comparing ids is comparing relations.
-/
theorem ids_identify {workspace : Workspace} (reachable : workspace.Reachable) (position : Nat)
    (steps : List Step) : workspace.Identifies position steps := by
  have sound := reachable.sound
  have vertices := numbers_ascend sound position steps
    (fun served new => served.newVertex? new) Scope.Succeeds.vertices_next
  have relations := numbers_ascend sound position steps
    (fun served new => served.newRelation? new) Scope.Succeeds.relations_next
  refine ⟨vertices.1, vertices.2, relations.1, relations.2, ?_, ?_, ?_, ?_⟩
  · intro event member property answered present
    exact (events_moments sound member).1.refound answered present
  · intro first firstMember second secondMember id one other oneLive otherLive
    obtain ⟨oneSame, oneMet⟩ := meets_of_relation? sound firstMember oneLive
    obtain ⟨otherSame, otherMet⟩ := meets_of_relation? sound secondMember otherLive
    exact oneMet.eq_of_id sound otherMet (oneSame.trans otherSame.symm)
  · intro event happened answered names moment member
    cases live : moment.arena.relation? answered.id with
    | none => exact .inl rfl
    | some relation =>
        obtain ⟨same, met⟩ := meets_of_relation? sound member live
        have handled : workspace.Meets position steps answered := .inr ⟨event, happened, names⟩
        exact .inr (congrArg some (met.eq_of_id sound handled same))
  · intro first second firstMet secondMet
    constructor
    · exact fun same => firstMet.eq_of_id sound secondMet (Relation.id_eq_of_same same)
    · rintro rfl
      exact first.same_self

/-- A property replaced, a commit, an edge that is discarded, and an edge after the rollback. -/
def replacingSteps : List Step :=
  [.start .standard, .scope 0 .addVertex, .scope 0 (.addProperty ⟨1⟩ "age" (.integer 30)),
    .scope 0 (.addProperty ⟨1⟩ "age" (.integer 31)), .scope 0 .commit,
    .scope 0 (.addEdge ⟨1⟩ "likes" ⟨1⟩), .scope 0 .rollback,
    .scope 0 (.addEdge ⟨1⟩ "likes" ⟨1⟩)]

/-- The discarded edge and the one added after the rollback have different ids. -/
theorem ids_identify_replaced :
    (((ofCatalog .fresh).events 0 replacingSteps).filterMap Event.newRelation?) =
        [⟨1⟩, ⟨2⟩, ⟨3⟩, ⟨4⟩] ∧
      (ofCatalog .fresh).Identifies 0 replacingSteps :=
  ⟨rfl, ids_identify .fresh 0 replacingSteps⟩

end Workspace

end PropertyGraph
