import PropertyGraph.Proofs.Query.Named
import PropertyGraph.Proofs.Scope.Agreement
import PropertyGraph.Proofs.Workspace.Run

/-!
# Interleavings

Calls to several scopes over one catalog, each with names only, can be mixed in
any order.  The order decides which scope uses a name first and so which schema
id the name gets, but it decides nothing else: to each scope the others are an
environment in which the catalog grows by interning under the common policy,
and what a scope answers is the same in every such environment.
-/

namespace PropertyGraph.Workspace

/-- What is asked of a scope: a request, or everything that a query can answer. -/
inductive Call where
  | request (request : Scope.Request)
  | query (query : Query)

inductive Reply where
  | answer (answer : Answer)
  | reading (reading : Query.Reading)

def Call.ByName : Call → Prop
  | request asked => asked.ByName
  | query asked => asked.ByName

namespace Reply

def unnumbered : Reply → Reply
  | answer (.scope result) => answer (.scope (result.map Scope.Answer.unnumbered))
  | answer other => answer other
  | reading answers => reading answers.unnumbered

def Exhausted : Reply → Prop
  | answer (.scope (.error (.error error))) => error.Exhausts
  | _ => False

theorem exhausted_scope {outcome : Outcome Scope.Answer} (exhausted : outcome.Exhausted) :
    (answer (.scope outcome.result)).Exhausted := by
  obtain ⟨error, exhausts, failed⟩ := exhausted
  rw [failed]
  exact exhausts

end Reply

def call (workspace : Workspace) (position : Nat) : Call → Reply × Workspace
  | .request request =>
    let (answer, changed) := workspace.serve (.scope position request)
    (.answer answer, changed)
  | .query query =>
    match workspace.scopes[position]? with
    | none => (.answer .noScope, workspace)
    | some scope => (.reading (query.read scope workspace.catalog), workspace)

/-- Make calls one after the other; each reply stands with the position of its call. -/
def callAll (workspace : Workspace) : List (Nat × Call) → List (Nat × Reply)
  | [] => []
  | (position, asked) :: rest =>
    let (reply, changed) := workspace.call position asked
    (position, reply) :: changed.callAll rest

/-- What of a list concerns a position, in the order of the list. -/
def track (position : Nat) {α : Type} (items : List (Nat × α)) : List α :=
  items.filterMap fun (place, item) => if place = position then some item else none

theorem track_cons (position place : Nat) {α : Type} (item : α) (rest : List (Nat × α)) :
    track position ((place, item) :: rest) =
      if place = position then item :: track position rest else track position rest := by
  by_cases here : place = position
  · simp [track, here]
  · simp [track, here]

theorem mem_track {position : Nat} {α : Type} {item : α} {items : List (Nat × α)} :
    item ∈ track position items ↔ (position, item) ∈ items := by
  simp [track, List.mem_filterMap]

/-- The list mixes the sequences of the positions. -/
def Interleaves (calls : List (Nat × Call)) (sequences : Nat → List Call) : Prop :=
  ∀ position, track position calls = sequences position

/--
The replies that a scope of the policy can give to calls by name, one after the
other, over catalogs that others let grow out of the base in between.
-/
inductive Sees (policy : Policy) (base : Catalog) : Scope → List Call → List Reply → Prop where
  | nil (scope : Scope) : Sees policy base scope [] []
  | request {scope : Scope} {catalog : Catalog} {request : Scope.Request} {calls : List Call}
      {replies : List Reply} (shares : scope.Shares policy base catalog)
      (byName : request.ByName)
      (later : Sees policy base (scope.serve catalog request).scope calls replies) :
      Sees policy base scope (.request request :: calls)
        (.answer (.scope (scope.serve catalog request).result) :: replies)
  | query {scope : Scope} {catalog : Catalog} {query : Query} {calls : List Call}
      {replies : List Reply} (shares : scope.Shares policy base catalog)
      (byName : query.ByName) (later : Sees policy base scope calls replies) :
      Sees policy base scope (.query query :: calls)
        (.reading (query.read scope catalog) :: replies)

/-- Scopes that differ in schema ids only reply the same, whatever their environments do. -/
theorem Sees.agree {policy : Policy} {base : Catalog} (baseSound : base.Sound)
    {first second : Scope} (same : first.unnumbered = second.unnumbered) {calls : List Call}
    {firstReplies secondReplies : List Reply}
    (firstSees : Sees policy base first calls firstReplies)
    (secondSees : Sees policy base second calls secondReplies)
    (firstEnough : ∀ reply ∈ firstReplies, ¬ reply.Exhausted)
    (secondEnough : ∀ reply ∈ secondReplies, ¬ reply.Exhausted) :
    firstReplies.map Reply.unnumbered = secondReplies.map Reply.unnumbered := by
  induction firstSees generalizing second secondReplies with
  | nil =>
      cases secondSees
      rfl
  | request firstShares byName _ ih =>
      cases secondSees with
      | request secondShares _ later =>
          rw [List.forall_mem_cons] at firstEnough secondEnough
          have agrees := Scope.serve_agrees same baseSound firstShares secondShares byName
            (fun exhausted => firstEnough.1 (Reply.exhausted_scope exhausted))
            (fun exhausted => secondEnough.1 (Reply.exhausted_scope exhausted))
          rw [List.map_cons, List.map_cons, ih agrees.scope later firstEnough.2 secondEnough.2]
          exact congrArg (fun result => Reply.answer (.scope result) :: _) agrees.result
  | query firstShares byName _ ih =>
      cases secondSees with
      | query secondShares _ later =>
          rw [List.forall_mem_cons] at firstEnough secondEnough
          have read := Query.read_unnumbered byName firstShares.sound.arena
            firstShares.catalogSound
          rw [Scope.arenas_eq same, ← Query.read_unnumbered byName secondShares.sound.arena
            secondShares.catalogSound] at read
          rw [List.map_cons, List.map_cons, ih same later firstEnough.2 secondEnough.2]
          exact congrArg (fun reading => Reply.reading reading :: _) read

/-- The scopes to be called share one policy, and the calls bring names only. -/
structure Ready (policy : Policy) (base : Catalog) (workspace : Workspace)
    (calls : List (Nat × Call)) : Prop where
  byName : ∀ entry ∈ calls, entry.2.ByName
  shares : ∀ entry ∈ calls, ∀ scope, workspace.scopes[entry.1]? = some scope →
    scope.Shares policy base workspace.catalog

section

variable {policy : Policy} {base : Catalog} {workspace : Workspace} {position : Nat}
  {scope : Scope}

/-- A request to an opened scope is served by this scope. -/
theorem call_request (opened : workspace.scopes[position]? = some scope)
    (request : Scope.Request) :
    workspace.call position (.request request) =
      (.answer (.scope (scope.serve workspace.catalog request).result),
        ⟨(scope.serve workspace.catalog request).catalog,
          workspace.scopes.set position (scope.serve workspace.catalog request).scope⟩) := by
  simp only [call, serve_scope opened]

theorem call_query (opened : workspace.scopes[position]? = some scope) (query : Query) :
    workspace.call position (.query query) =
      (.reading (query.read scope workspace.catalog), workspace) := by
  simp only [call, opened]

theorem call_of_none (missing : workspace.scopes[position]? = none) (asked : Call) :
    workspace.call position asked = (.answer .noScope, workspace) := by
  cases asked with
  | request request => simp only [call, serve, missing]
  | query query => simp only [call, missing]

/-- A call to a scope leaves the others as they are. -/
theorem scope_call_of_ne {place : Nat} (apart : place ≠ position) (asked : Call) :
    (workspace.call place asked).2.scopes[position]? = workspace.scopes[position]? := by
  cases opened : workspace.scopes[place]? with
  | none => rw [call_of_none opened]
  | some other =>
      cases asked with
      | request request =>
          rw [call_request opened]
          exact List.getElem?_set_ne apart
      | query query => rw [call_query opened]

theorem Ready.next {asked : Call} {rest : List (Nat × Call)}
    (ready : Ready policy base workspace ((position, asked) :: rest)) :
    Ready policy base (workspace.call position asked).2 rest := by
  have later : Ready policy base workspace rest :=
    ⟨fun entry member => ready.byName entry (List.mem_cons_of_mem _ member),
      fun entry member => ready.shares entry (List.mem_cons_of_mem _ member)⟩
  cases opened : workspace.scopes[position]? with
  | none =>
      rw [call_of_none opened]
      exact later
  | some scope =>
      cases asked with
      | query query =>
          rw [call_query opened]
          exact later
      | request request =>
          have byName : request.ByName := ready.byName _ List.mem_cons_self
          have shares := ready.shares _ List.mem_cons_self scope opened
          refine ⟨later.byName, ?_⟩
          intro entry member other found
          by_cases apart : position = entry.1
          · rw [call_request opened, ← apart,
              List.getElem?_set_self (List.getElem?_eq_some_iff.1 opened).1] at found
            cases found
            rw [call_request opened]
            exact shares.serve byName
          · rw [scope_call_of_ne apart] at found
            rw [call_request opened]
            exact (later.shares entry member other found).serve_other shares byName

/-- What a run is to one of its scopes. -/
theorem Ready.sees {calls : List (Nat × Call)} (ready : Ready policy base workspace calls)
    (opened : workspace.scopes[position]? = some scope) :
    Sees policy base scope (track position calls)
      (track position (workspace.callAll calls)) := by
  induction calls generalizing workspace scope with
  | nil => exact .nil scope
  | cons entry rest ih =>
      obtain ⟨place, asked⟩ := entry
      have next := ready.next
      simp only [callAll, track_cons]
      by_cases here : place = position
      · subst here
        have byName : asked.ByName := ready.byName _ List.mem_cons_self
        have shares := ready.shares _ List.mem_cons_self scope opened
        simp only [if_true]
        cases asked with
        | request request =>
            rw [call_request opened] at next ⊢
            exact .request shares byName
              (ih next (List.getElem?_set_self (List.getElem?_eq_some_iff.1 opened).1))
        | query query =>
            rw [call_query opened] at next ⊢
            exact .query shares byName (ih next opened)
      · simp only [if_neg here]
        exact ih next ((scope_call_of_ne here asked).trans opened)

end

/-- Scopes of one policy are ready for an interleaving of calls by name. -/
theorem Sound.ready {workspace : Workspace} (sound : workspace.Sound) {policy : Policy}
    {sequences : Nat → List Call}
    (uniform : ∀ position scope, workspace.scopes[position]? = some scope →
      sequences position ≠ [] → scope.config.policy = policy)
    (byName : ∀ position, ∀ asked ∈ sequences position, asked.ByName)
    {calls : List (Nat × Call)} (interleaves : Interleaves calls sequences) :
    Ready policy workspace.catalog workspace calls := by
  have member : ∀ entry ∈ calls, entry.2 ∈ sequences entry.1 := by
    intro entry listed
    rw [← interleaves entry.1]
    exact mem_track.2 listed
  constructor
  · exact fun entry listed => byName entry.1 entry.2 (member entry listed)
  · intro entry listed scope opened
    exact ⟨sound.scopeAt opened, sound.catalog, .refl policy workspace.catalog,
      uniform entry.1 scope opened (List.ne_nil_of_mem (member entry listed))⟩

/--
In every reachable workspace, when scopes of one policy are called by names
only, every two interleavings of the same sequences of calls in which no schema
id is missing give each scope the same replies up to schema ids.
-/
theorem interleavings_agree {workspace : Workspace} (reachable : workspace.Reachable)
    {policy : Policy} {sequences : Nat → List Call}
    (uniform : ∀ position scope, workspace.scopes[position]? = some scope →
      sequences position ≠ [] → scope.config.policy = policy)
    (byName : ∀ position, ∀ asked ∈ sequences position, asked.ByName)
    {first second : List (Nat × Call)} (firstInterleaves : Interleaves first sequences)
    (secondInterleaves : Interleaves second sequences)
    (firstEnough : ∀ entry ∈ workspace.callAll first, ¬ entry.2.Exhausted)
    (secondEnough : ∀ entry ∈ workspace.callAll second, ¬ entry.2.Exhausted)
    {position : Nat} {scope : Scope} (opened : workspace.scopes[position]? = some scope) :
    (track position (workspace.callAll first)).map Reply.unnumbered =
      (track position (workspace.callAll second)).map Reply.unnumbered := by
  have sound := reachable.sound
  have firstSees := (sound.ready uniform byName firstInterleaves).sees opened
  have secondSees := (sound.ready uniform byName secondInterleaves).sees opened
  rw [firstInterleaves position] at firstSees
  rw [secondInterleaves position] at secondSees
  exact firstSees.agree sound.catalog rfl secondSees
    (fun reply member => firstEnough (position, reply) (mem_track.1 member))
    (fun reply member => secondEnough (position, reply) (mem_track.1 member))

def pair : Workspace :=
  (ofCatalog .fresh).after
    [.start .standard, .start .standard, .scope 0 .addVertex, .scope 1 .addVertex]

def pairCalls : Nat → List Call
  | 0 => [.request (.addEdge ⟨1⟩ "likes" ⟨1⟩),
      .query ((Query.around ⟨1⟩).withLabels [.name "knows"]),
      .request (.addProperty ⟨1⟩ "age" (.integer 30))]
  | 1 => [.request (.addProperty ⟨1⟩ "size" (.integer 7)), .request (.addEdge ⟨1⟩ "knows" ⟨1⟩)]
  | _ => []

def likesFirst : List (Nat × Call) :=
  [(0, .request (.addEdge ⟨1⟩ "likes" ⟨1⟩)),
    (0, .query ((Query.around ⟨1⟩).withLabels [.name "knows"])),
    (0, .request (.addProperty ⟨1⟩ "age" (.integer 30))),
    (1, .request (.addProperty ⟨1⟩ "size" (.integer 7))),
    (1, .request (.addEdge ⟨1⟩ "knows" ⟨1⟩))]

def knowsFirst : List (Nat × Call) :=
  [(1, .request (.addProperty ⟨1⟩ "size" (.integer 7))),
    (1, .request (.addEdge ⟨1⟩ "knows" ⟨1⟩)), (0, .request (.addEdge ⟨1⟩ "likes" ⟨1⟩)),
    (0, .query ((Query.around ⟨1⟩).withLabels [.name "knows"])),
    (0, .request (.addProperty ⟨1⟩ "age" (.integer 30)))]

/-- The order decides the schema ids that the first scope answers with, and nothing else. -/
theorem interleavings_agree_pair :
    (track 0 (pair.callAll likesFirst)).head? =
        some (.answer (.scope (.ok (.edge ⟨⟨1⟩, ⟨⟨0⟩, "likes"⟩, ⟨1⟩, ⟨1⟩⟩)))) ∧
      (track 0 (pair.callAll knowsFirst)).head? =
        some (.answer (.scope (.ok (.edge ⟨⟨1⟩, ⟨⟨1⟩, "likes"⟩, ⟨1⟩, ⟨1⟩⟩)))) ∧
      (track 0 (pair.callAll likesFirst)).map Reply.unnumbered =
        (track 0 (pair.callAll knowsFirst)).map Reply.unnumbered := by
  have uniform : ∀ position scope, pair.scopes[position]? = some scope →
      pairCalls position ≠ [] → scope.config.policy = .standard := by
    intro position scope opened _
    match position, opened with
    | 0, rfl => rfl
    | 1, rfl => rfl
  have byName : ∀ position, ∀ asked ∈ pairCalls position, asked.ByName := by
    intro position asked listed
    match position with
    | 0 =>
        simp only [pairCalls, List.mem_cons, List.not_mem_nil, or_false] at listed
        rcases listed with rfl | rfl | rfl
        · exact trivial
        · exact ⟨by simp [Query.withLabels, Query.around, TypeRef.IsName],
            by simp [Query.withLabels, Query.around]⟩
        · exact trivial
    | 1 =>
        simp only [pairCalls, List.mem_cons, List.not_mem_nil, or_false] at listed
        rcases listed with rfl | rfl
        · exact trivial
        · exact trivial
  have likesInterleaves : Interleaves likesFirst pairCalls := by
    intro position
    match position with
    | 0 => rfl
    | 1 => rfl
    | _ + 2 => rfl
  have knowsInterleaves : Interleaves knowsFirst pairCalls := by
    intro position
    match position with
    | 0 => rfl
    | 1 => rfl
    | _ + 2 => rfl
  have met (reading : Query.Reading) (first second third fourth : Scope.Answer) :
      (∀ entry ∈ [(0, .answer (.scope (.ok first))), (0, .reading reading),
        (0, .answer (.scope (.ok second))), (1, .answer (.scope (.ok third))),
        (1, Reply.answer (.scope (.ok fourth)))], ¬ entry.2.Exhausted) ∧
      ∀ entry ∈ [(1, .answer (.scope (.ok third))), (1, .answer (.scope (.ok fourth))),
        (0, .answer (.scope (.ok first))), (0, .reading reading),
        (0, Reply.answer (.scope (.ok second)))], ¬ entry.2.Exhausted := by
    simp [Reply.Exhausted]
  exact ⟨rfl, rfl, interleavings_agree (Reachable.fresh.after _) uniform byName likesInterleaves
    knowsInterleaves (met _ _ _ _ _).1 (met _ _ _ _ _).2 rfl⟩

end PropertyGraph.Workspace
