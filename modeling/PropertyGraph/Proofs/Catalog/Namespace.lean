import Mathlib.Data.List.AList
import PropertyGraph.Proofs.Catalog.Acceptance

/-!
# Namespaces

A directory is one ascending list in which descriptors, ids and names are
looked up.  A namespace keeps the descriptors in two tables, under their names
and under their ids, and a counter for the next id.  Its operations refuse and
answer what those of the directory do, and the two go on to hold the same
descriptors, so that no sequence of changes can tell them apart.
-/

namespace PropertyGraph

structure Namespace (δ : Type) where
  byName : AList fun _ : String => δ
  byId : AList fun _ : SchemaId => δ
  next : UInt64

inductive Change (δ : Type) where
  | insert (entry : δ)
  | intern (name : String) (wanted : Bool) (make : SchemaId → δ)
  | define (name : String) (make : SchemaId → δ)

namespace Change

variable {δ σ : Type}

/-- What a change answers and the state after it; a refused change leaves the state as it was. -/
def settle (state : σ) : Except GraphError (δ × σ) → Except GraphError δ × σ
  | .ok (entry, later) => (.ok entry, later)
  | .error error => (.error error, state)

def serveAll (serve : σ → Change δ → Except GraphError δ × σ) (state : σ) :
    List (Change δ) → List (Except GraphError δ) × σ
  | [] => ([], state)
  | change :: rest =>
    let (answer, later) := serve state change
    let (answers, last) := serveAll serve later rest
    (answer :: answers, last)

end Change

namespace Namespace

variable {δ : Type}

def empty : Namespace δ := ⟨∅, ∅, 0⟩

def find? (space : Namespace δ) (name : String) : Option δ := space.byName.lookup name

def byId? (space : Namespace δ) (id : SchemaId) : Option δ := space.byId.lookup id

def nextId (space : Namespace δ) : SchemaId := ⟨space.next⟩

variable [Catalogued δ]

def sorted (space : Namespace δ) : List δ := Directory.ascending (space.byId.entries.map Sigma.snd)

/-- Enter a descriptor in both tables and raise the counter above its id. -/
def insert (space : Namespace δ) (entry : δ) : Except GraphError (Namespace δ) :=
  if (space.find? (Catalogued.name entry)).isSome ∨
      (space.byId? (Catalogued.id entry)).isSome then
    .error (.typeAlreadyExists (Catalogued.kind δ) (Catalogued.name entry))
  else if Catalogued.id entry = .last then
    .error (.config (.idOutOfRange (Catalogued.kind δ) (Catalogued.id entry)))
  else .ok {
    byName := space.byName.insert (Catalogued.name entry) entry
    byId := space.byId.insert (Catalogued.id entry) entry
    next := max space.next ((Catalogued.id entry).word + 1) }

def create (space : Namespace δ) (make : SchemaId → δ) : Except GraphError (δ × Namespace δ) :=
  let entry := make space.nextId
  (space.insert entry).map fun grown => (entry, grown)

def intern (space : Namespace δ) (name : String) (wanted : Bool) (make : SchemaId → δ) :
    Except GraphError (δ × Namespace δ) :=
  match space.find? name with
  | some entry => .ok (entry, space)
  | none =>
    if !wanted ∨ name = "" then .error (.unknownType (Catalogued.kind δ) name)
    else space.create make

def define (space : Namespace δ) (name : String) (make : SchemaId → δ) :
    Except GraphError (δ × Namespace δ) :=
  if name = "" then .error (.unknownType (Catalogued.kind δ) name)
  else if (space.find? name).isSome then .error (.typeAlreadyExists (Catalogued.kind δ) name)
  else space.create make

def insertAll (space : Namespace δ) : List δ → Except GraphError (Namespace δ)
  | [] => .ok space
  | entry :: rest =>
    match space.insert entry with
    | .ok grown => grown.insertAll rest
    | .error error => .error error

def serve (space : Namespace δ) : Change δ → Except GraphError δ × Namespace δ
  | .insert entry => Change.settle space ((space.insert entry).map fun grown => (entry, grown))
  | .intern name wanted make => Change.settle space (space.intern name wanted make)
  | .define name make => Change.settle space (space.define name make)

end Namespace

namespace Directory

variable {δ : Type} [Catalogued δ]

def serve (directory : Directory δ) : Change δ → Except GraphError δ × Directory δ
  | .insert entry =>
    Change.settle directory ((directory.insert entry).map fun grown => (entry, grown))
  | .intern name wanted make => Change.settle directory (directory.intern name wanted make)
  | .define name make => Change.settle directory (directory.define name make)

end Directory

/-- Two operations refuse for the same cause, or both succeed and their results are related. -/
inductive Matches {α β : Type} (R : α → β → Prop) :
    Except GraphError α → Except GraphError β → Prop where
  | refused (error : GraphError) : Matches R (.error error) (.error error)
  | served {first : α} {second : β} (related : R first second) :
      Matches R (.ok first) (.ok second)

theorem Matches.map {α β α' β' : Type} {R : α → β → Prop} {S : α' → β' → Prop}
    {first : Except GraphError α} {second : Except GraphError β} {f : α → α'} {g : β → β'}
    (same : Matches R first second) (keeps : ∀ a b, R a b → S (f a) (g b)) :
    Matches S (first.map f) (second.map g) := by
  cases same with
  | refused error => exact .refused error
  | served related => exact .served (keeps _ _ related)

namespace Namespace

variable {δ : Type}

theorem lookup_insert {κ : Type} [DecidableEq κ] (table : AList fun _ : κ => δ) (key : κ)
    (entry : δ) :
    (fun wanted => (table.insert key entry).lookup wanted) =
      Function.update (fun wanted => table.lookup wanted) key (some entry) := by
  funext wanted
  by_cases here : wanted = key
  · subst here
    rw [Function.update_self, AList.lookup_insert]
  · rw [Function.update_of_ne here, AList.lookup_insert_ne here]

variable [Catalogued δ]

/-- The two tables are the lookups of an ordered directory, and the counter is at its next id. -/
structure Simulates (space : Namespace δ) (directory : Directory δ) : Prop where
  ordered : directory.Ordered
  find? : space.find? = directory.find?
  byId? : space.byId? = directory.byId?
  nextId : space.nextId = directory.nextId

/-- The same descriptor, and states of which the one simulates the other. -/
def Answers (first : δ × Namespace δ) (second : δ × Directory δ) : Prop :=
  first.1 = second.1 ∧ first.2.Simulates second.2

variable {space : Namespace δ} {directory : Directory δ}

theorem Simulates.empty : (empty : Namespace δ).Simulates .empty where
  ordered := .empty
  find? := rfl
  byId? := rfl
  nextId := rfl

theorem Simulates.insert (simulates : space.Simulates directory) (entry : δ) :
    Matches Simulates (space.insert entry) (directory.insert entry) := by
  unfold Namespace.insert
  rw [simulates.find?, simulates.byId?]
  cases inserted : directory.insert entry with
  | error error =>
      unfold Directory.insert at inserted
      split at inserted
      next taken =>
        cases inserted
        rw [if_pos taken]
        exact .refused _
      next free =>
        split at inserted
        next last =>
          cases inserted
          rw [if_neg free, if_pos last]
          exact .refused _
        next => cases inserted
  | ok grown =>
      obtain ⟨nameFree, idFree, counted, -⟩ := Directory.insert_eq_ok inserted
      obtain ⟨named, numbered⟩ := simulates.ordered.lookups_insert inserted
      rw [if_neg (by simp [nameFree, idFree]), if_neg counted]
      refine .served ⟨simulates.ordered.insert inserted, ?_, ?_, ?_⟩
      · rw [named, ← simulates.find?]
        exact lookup_insert _ _ _
      · rw [numbered, ← simulates.byId?]
        exact lookup_insert _ _ _
      · apply SchemaId.ext_number
        rw [simulates.ordered.nextId_insert inserted, ← simulates.nextId]
        change (max space.next ((Catalogued.id entry).word + 1)).toNat = _
        rw [UInt64.toNat_max, SchemaId.toNat_succ counted]
        rfl

theorem Simulates.create (simulates : space.Simulates directory) (make : SchemaId → δ) :
    Matches Answers (space.create make) (directory.create make) := by
  unfold Namespace.create Directory.create
  rw [simulates.nextId]
  exact (simulates.insert _).map fun _ _ grown => ⟨rfl, grown⟩

theorem Simulates.intern (simulates : space.Simulates directory) (name : String) (wanted : Bool)
    (make : SchemaId → δ) :
    Matches Answers (space.intern name wanted make) (directory.intern name wanted make) := by
  unfold Namespace.intern Directory.intern
  rw [simulates.find?]
  cases directory.find? name with
  | some entry => exact .served ⟨rfl, simulates⟩
  | none =>
      dsimp only
      split
      next => exact .refused _
      next => exact simulates.create make

theorem Simulates.define (simulates : space.Simulates directory) (name : String)
    (make : SchemaId → δ) :
    Matches Answers (space.define name make) (directory.define name make) := by
  unfold Namespace.define Directory.define Directory.contains
  rw [simulates.find?]
  split
  next => exact .refused _
  next =>
    split
    next => exact .refused _
    next => exact simulates.create make

theorem Simulates.insertAll (simulates : space.Simulates directory) (entries : List δ) :
    Matches Simulates (space.insertAll entries) (directory.insertAll entries) := by
  induction entries generalizing space directory with
  | nil => exact .served simulates
  | cons entry rest ih =>
      have first := simulates.insert entry
      unfold Namespace.insertAll Directory.insertAll
      revert first
      generalize space.insert entry = entered, directory.insert entry = inserted
      rintro (error | grown)
      · exact .refused error
      · exact ih grown

theorem Simulates.settle (simulates : space.Simulates directory)
    {first : Except GraphError (δ × Namespace δ)} {second : Except GraphError (δ × Directory δ)}
    (same : Matches Answers first second) :
    (Change.settle space first).1 = (Change.settle directory second).1 ∧
      (Change.settle space first).2.Simulates (Change.settle directory second).2 := by
  cases same with
  | refused error => exact ⟨rfl, simulates⟩
  | served related => exact ⟨congrArg Except.ok related.1, related.2⟩

theorem Simulates.serve (simulates : space.Simulates directory) (change : Change δ) :
    (space.serve change).1 = (directory.serve change).1 ∧
      (space.serve change).2.Simulates (directory.serve change).2 := by
  cases change with
  | insert entry =>
      exact simulates.settle ((simulates.insert entry).map fun _ _ grown => ⟨rfl, grown⟩)
  | intern name wanted make => exact simulates.settle (simulates.intern name wanted make)
  | define name make => exact simulates.settle (simulates.define name make)

/-- The namespace and the directory answer all changes alike, one after the other. -/
theorem Simulates.serveAll (simulates : space.Simulates directory) (changes : List (Change δ)) :
    (Change.serveAll Namespace.serve space changes).1 =
        (Change.serveAll Directory.serve directory changes).1 ∧
      (Change.serveAll Namespace.serve space changes).2.Simulates
        (Change.serveAll Directory.serve directory changes).2 := by
  induction changes generalizing space directory with
  | nil => exact ⟨rfl, simulates⟩
  | cons change rest ih =>
      obtain ⟨answer, later⟩ := simulates.serve change
      obtain ⟨answers, last⟩ := ih later
      exact ⟨congrArg₂ List.cons answer answers, last⟩

theorem Simulates.mem_byId (simulates : space.Simulates directory) {id : SchemaId} {entry : δ} :
    ⟨id, entry⟩ ∈ space.byId.entries ↔ entry ∈ directory.entries ∧ Catalogued.id entry = id := by
  rw [← AList.mem_lookup_iff, ← simulates.ordered.byId?_eq_some_iff, ← simulates.byId?]
  rfl

/-- The table of ids holds each descriptor of the directory once. -/
theorem Simulates.values_perm (simulates : space.Simulates directory) :
    (space.byId.entries.map Sigma.snd).Perm directory.entries := by
  have once : (space.byId.entries.map Sigma.snd).Nodup := by
    refine List.Nodup.map_on ?_ space.byId.nodupKeys.nodup
    rintro ⟨first, entry⟩ firstListed ⟨second, _⟩ secondListed rfl
    have numbered := (simulates.mem_byId.1 firstListed).2
    rw [← numbered, (simulates.mem_byId.1 secondListed).2]
  have distinct : directory.entries.Nodup := simulates.ordered.names_nodup.of_map
  rw [List.perm_ext_iff_of_nodup once distinct]
  intro entry
  rw [List.mem_map]
  constructor
  · rintro ⟨⟨id, _⟩, listed, rfl⟩
    exact (simulates.mem_byId.1 listed).1
  · intro known
    exact ⟨⟨_, entry⟩, simulates.mem_byId.2 ⟨known, rfl⟩, rfl⟩

/-- The sorted table of ids lists what the directory lists. -/
theorem Simulates.sorted (simulates : space.Simulates directory) :
    space.sorted = directory.entries := by
  have ordered := simulates.ordered
  have again := (Directory.insertAll_eq_ok_iff.1 ordered.insertAll_entries).2
  rw [Namespace.sorted, ← ordered.enterable.ascending_eq simulates.values_perm.symm]
  exact (congrArg Directory.entries again).symm

/--
From empty tables and a counter at zero a namespace answers any changes as a
directory does from no descriptors; then it finds and lists what the directory
finds and lists, and the counter is at the directory's next id.
-/
theorem simulates_directory (changes : List (Change δ)) :
    (Change.serveAll Namespace.serve empty changes).1 =
        (Change.serveAll Directory.serve .empty changes).1 ∧
      (Change.serveAll Namespace.serve empty changes).2.Simulates
        (Change.serveAll Directory.serve .empty changes).2 ∧
      (Change.serveAll Namespace.serve empty changes).2.sorted =
        (Change.serveAll Directory.serve .empty changes).2.entries := by
  obtain ⟨answers, simulates⟩ := Simulates.empty.serveAll changes
  exact ⟨answers, simulates, simulates.sorted⟩

/-- An ordered directory is simulated by the namespace of its descriptors. -/
theorem exists_simulates (ordered : directory.Ordered) :
    ∃ space : Namespace δ, empty.insertAll directory.entries = .ok space ∧
      space.Simulates directory := by
  have entered := Simulates.empty.insertAll directory.entries
  rw [ordered.insertAll_entries] at entered
  generalize (empty : Namespace δ).insertAll directory.entries = filled at entered ⊢
  cases entered with
  | served simulates => exact ⟨_, rfl, simulates⟩

end Namespace

/-- The descriptors of each kind in a sound catalog can be kept in a namespace. -/
theorem Catalog.Sound.exists_simulates {δ : Type} [Catalogued δ] (part : Catalog.Part δ)
    {catalog : Catalog} (sound : catalog.Sound) :
    ∃ space : Namespace δ,
      Namespace.empty.insertAll (part.directory catalog).entries = .ok space ∧
        space.Simulates (part.directory catalog) :=
  Namespace.exists_simulates (part.ordered sound)

end PropertyGraph
