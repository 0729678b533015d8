import PropertyGraph.Proofs.Catalog.Growth

/-!
# What interning answers

In an ordered directory a fresh name is refused for one reason only: that the
last id would be needed.  Otherwise its descriptor goes to the end with the
next id.  Scopes of one policy therefore make of an unknown name the same
descriptor up to its id, whichever of them comes first: what interning answers
can be read off the directory as it was before any of them began.
-/

namespace PropertyGraph

/-- No further id is left for a descriptor. -/
def GraphError.Exhausts (error : GraphError) : Prop :=
  ∃ kind id, error = .config (.idOutOfRange kind id)

namespace Directory

variable {δ : Type} [Catalogued δ] {directory : Directory δ}

def append (directory : Directory δ) (entry : δ) : Directory δ := ⟨directory.entries ++ [entry]⟩

/-- Every descriptor that `make` builds has the given name and id. -/
structure Makes (make : String → SchemaId → δ) : Prop where
  id : ∀ name id, Catalogued.id (make name id) = id
  name : ∀ name id, Catalogued.name (make name id) = name

theorem Ordered.append_nextId (ordered : directory.Ordered) {entry : δ}
    (numbered : Catalogued.id entry = directory.nextId) :
    insertOrdered entry directory.entries = (directory.append entry).entries := by
  apply insertOrdered_eq_append
  intro other known
  rw [numbered]
  exact ordered.lt_nextId known

/-- A fresh name is created with the next id, unless that is the last one. -/
theorem Ordered.create_eq (ordered : directory.Ordered) {make : String → SchemaId → δ}
    (makes : Makes make) {name : String} (fresh : directory.find? name = none) :
    directory.create (make name) =
      if directory.nextId = .last then
        .error (.config (.idOutOfRange (Catalogued.kind δ) directory.nextId))
      else .ok (make name directory.nextId, directory.append (make name directory.nextId)) := by
  have unused : directory.byId? directory.nextId = none := by
    rw [byId?_eq_none_iff]
    intro entry known same
    have below := ordered.lt_nextId known
    rw [same] at below
    exact Nat.lt_irrefl _ below
  have placed := ordered.append_nextId (makes.id name directory.nextId)
  simp only [create, Directory.insert, makes.id, makes.name, fresh, unused, Option.isSome_none,
    Bool.false_eq_true, or_self, if_false]
  split
  next => rfl
  next => rw [Except.map, placed]

/-- An unknown name is interned if that is wanted, the name is not empty and an id is left. -/
theorem Ordered.intern_eq (ordered : directory.Ordered) {make : String → SchemaId → δ}
    (makes : Makes make) {name : String} (fresh : directory.find? name = none) (wanted : Bool) :
    directory.intern name wanted (make name) =
      if wanted = false ∨ name = "" then .error (.unknownType (Catalogued.kind δ) name)
      else if directory.nextId = .last then
        .error (.config (.idOutOfRange (Catalogued.kind δ) directory.nextId))
      else .ok (make name directory.nextId, directory.append (make name directory.nextId)) := by
  simp only [intern, fresh, ordered.create_eq makes fresh, Bool.not_eq_true']

theorem intern_of_find? {name : String} {entry : δ} (known : directory.find? name = some entry)
    (wanted : Bool) (make : SchemaId → δ) :
    directory.intern name wanted make = .ok (entry, directory) := by
  simp only [intern, known]

/-- What interning answers carries the name that was asked for. -/
theorem intern_named {make : String → SchemaId → δ} (makes : Makes make) {name : String}
    {wanted : Bool} {entry : δ} {grown : Directory δ}
    (interned : directory.intern name wanted (make name) = .ok (entry, grown)) :
    Catalogued.name entry = name := by
  cases found : directory.find? name with
  | some held =>
      rw [intern_of_find? found] at interned
      cases interned
      simpa using List.find?_some found
  | none =>
      simp only [intern, found] at interned
      split at interned
      next => cases interned
      next =>
        obtain ⟨after, -, same⟩ := map_eq_ok_iff.1 interned
        cases same
        exact makes.name name directory.nextId

/-- Why a name is not interned: it is unknown and not to be created, or no id is left. -/
inductive Refuses (directory : Directory δ) (wanted : Bool) (name : String) :
    GraphError → Prop where
  | unknown (fresh : directory.find? name = none) (unwanted : wanted = false ∨ name = "") :
      Refuses directory wanted name (.unknownType (Catalogued.kind δ) name)
  | exhausted (fresh : directory.find? name = none) (permitted : wanted = true)
      (nonempty : name ≠ "") (full : directory.nextId = .last) :
      Refuses directory wanted name (.config (.idOutOfRange (Catalogued.kind δ) .last))

/-- Interning fails for the listed reasons and for no other. -/
theorem Ordered.intern_eq_error_iff (ordered : directory.Ordered) {make : String → SchemaId → δ}
    (makes : Makes make) {name : String} {wanted : Bool} {error : GraphError} :
    directory.intern name wanted (make name) = .error error ↔
      directory.Refuses wanted name error := by
  constructor
  · intro failed
    cases found : directory.find? name with
    | some entry =>
        rw [intern_of_find? found] at failed
        cases failed
    | none =>
        rw [ordered.intern_eq makes found] at failed
        split at failed
        next unwanted =>
          cases failed
          exact .unknown found unwanted
        next permitted =>
          rw [not_or, Bool.not_eq_false] at permitted
          split at failed
          next full =>
            cases failed
            rw [full]
            exact .exhausted found permitted.1 permitted.2 full
          next => cases failed
  · intro refuses
    cases refuses with
    | unknown fresh unwanted => rw [ordered.intern_eq makes fresh, if_pos unwanted]
    | exhausted fresh permitted nonempty full =>
        have allowed : ¬ (wanted = false ∨ name = "") := by simp [permitted, nonempty]
        rw [ordered.intern_eq makes fresh, if_neg allowed, if_pos full, full]

/-- The directory grew out of an earlier one by interning names with `make`. -/
structure Interns (wanted : Bool) (make : String → SchemaId → δ)
    (base directory : Directory δ) : Prop where
  grows : base.Grows directory
  made : ∀ entry ∈ directory.entries, entry ∈ base.entries ∨
    wanted = true ∧ Catalogued.name entry ≠ "" ∧
      entry = make (Catalogued.name entry) (Catalogued.id entry)

namespace Interns

variable {base : Directory δ} {wanted : Bool} {make : String → SchemaId → δ}

theorem refl (wanted : Bool) (make : String → SchemaId → δ) (base : Directory δ) :
    base.Interns wanted make base :=
  ⟨.refl base, fun _ known => .inl known⟩

/-- Interning one more name keeps to the rule. -/
theorem intern (interns : base.Interns wanted make directory) (ordered : directory.Ordered)
    (makes : Makes make) {name : String} {entry : δ} {grown : Directory δ}
    (interned : directory.intern name wanted (make name) = .ok (entry, grown)) :
    base.Interns wanted make grown := by
  cases found : directory.find? name with
  | some held =>
      rw [intern_of_find? found] at interned
      cases interned
      exact interns
  | none =>
      rw [ordered.intern_eq makes found] at interned
      split at interned
      next => cases interned
      next permitted =>
        split at interned
        next => cases interned
        next =>
          cases interned
          rw [not_or, Bool.not_eq_false] at permitted
          refine ⟨interns.grows.trans (List.prefix_append _ _), ?_⟩
          intro other known
          rcases List.mem_append.1 known with old | new
          · exact interns.made other old
          · rw [List.mem_singleton.1 new, makes.id, makes.name]
            exact .inr ⟨permitted.1, permitted.2, rfl⟩

end Interns

/-- What interning a name answers, as far as the base decides it: the id is left open. -/
def denoted (base : Directory δ) (wanted : Bool) (make : String → SchemaId → δ) (name : String) :
    Except GraphError δ :=
  match base.find? name with
  | some entry => .ok entry
  | none =>
    if wanted = false ∨ name = "" then .error (.unknownType (Catalogued.kind δ) name)
    else .ok (make name ⟨0⟩)

/-- Interning over a base answers what the base denotes up to the id, or an id is missing. -/
theorem Interns.intern_answer {base : Directory δ} {wanted : Bool} {make : String → SchemaId → δ}
    (interns : base.Interns wanted make directory) (baseOrdered : base.Ordered)
    (ordered : directory.Ordered) (makes : Makes make) {α : Type} {strip : δ → α}
    (idless : ∀ name first second, strip (make name first) = strip (make name second))
    (name : String) :
    (∃ error, error.Exhausts ∧ directory.intern name wanted (make name) = .error error) ∨
      (directory.intern name wanted (make name)).map (fun interned => strip interned.1) =
        (base.denoted wanted make name).map strip := by
  cases before : base.find? name with
  | some entry =>
      have known := (baseOrdered.find?_eq_some_iff.1 before)
      have found : directory.find? name = some entry :=
        ordered.find?_eq_some_iff.2 ⟨interns.grows.mem known.1, known.2⟩
      rw [intern_of_find? found, denoted, before]
      exact .inr rfl
  | none =>
      rw [denoted, before]
      cases found : directory.find? name with
      | some entry =>
          obtain ⟨known, named⟩ := ordered.find?_eq_some_iff.1 found
          rcases interns.made entry known with old | ⟨permitted, nonempty, made⟩
          · exact absurd named (find?_eq_none_iff.1 before entry old)
          · rw [named] at nonempty made
            rw [intern_of_find? found]
            have allowed : ¬ (wanted = false ∨ name = "") := by simp [permitted, nonempty]
            rw [if_neg allowed]
            refine .inr (congrArg Except.ok ?_)
            rw [made]
            exact idless name _ _
      | none =>
          rw [ordered.intern_eq makes found]
          split
          next => exact .inr rfl
          next =>
            split
            next => exact .inl ⟨_, ⟨_, _, rfl⟩, rfl⟩
            next => exact .inr (congrArg Except.ok (idless name _ _))

/-- Two directories grown out of one base by interning answer the same up to the id. -/
theorem Interns.intern_agrees {base first second : Directory δ} {wanted : Bool}
    {make : String → SchemaId → δ} (firstInterns : base.Interns wanted make first)
    (secondInterns : base.Interns wanted make second) (baseOrdered : base.Ordered)
    (firstOrdered : first.Ordered) (secondOrdered : second.Ordered) (makes : Makes make)
    {α : Type} (strip : δ → α)
    (idless : ∀ name first second, strip (make name first) = strip (make name second))
    (name : String)
    (firstEnough : ∀ error, error.Exhausts → first.intern name wanted (make name) ≠ .error error)
    (secondEnough : ∀ error, error.Exhausts →
      second.intern name wanted (make name) ≠ .error error) :
    (first.intern name wanted (make name)).map (fun interned => strip interned.1) =
      (second.intern name wanted (make name)).map fun interned => strip interned.1 := by
  rcases firstInterns.intern_answer baseOrdered firstOrdered makes idless name with
    ⟨error, exhausted, failed⟩ | firstAnswer
  · exact absurd failed (firstEnough error exhausted)
  rcases secondInterns.intern_answer baseOrdered secondOrdered makes idless name with
    ⟨error, exhausted, failed⟩ | secondAnswer
  · exact absurd failed (secondEnough error exhausted)
  rw [firstAnswer, secondAnswer]

end Directory

def Policy.key (policy : Policy) (name : String) (id : SchemaId) : PropertyKey :=
  ⟨id, name, policy.dataType, policy.cardinality⟩

theorem Policy.key_makes (policy : Policy) : Directory.Makes policy.key :=
  ⟨fun _ _ => rfl, fun _ _ => rfl⟩

def EdgeLabel.named (name : String) (id : SchemaId) : EdgeLabel := ⟨id, name⟩

theorem EdgeLabel.named_makes : Directory.Makes EdgeLabel.named :=
  ⟨fun _ _ => rfl, fun _ _ => rfl⟩

def VertexLabel.named (name : String) (id : SchemaId) : VertexLabel := ⟨id, name⟩

theorem VertexLabel.named_makes : Directory.Makes VertexLabel.named :=
  ⟨fun _ _ => rfl, fun _ _ => rfl⟩

/-- The id that stands where a schema id was taken away. -/
def SchemaId.blank : SchemaId := ⟨0⟩

def PropertyKey.unnumbered (key : PropertyKey) : PropertyKey := { key with id := .blank }

def EdgeLabel.unnumbered (label : EdgeLabel) : EdgeLabel := { label with id := .blank }

def VertexLabel.unnumbered (label : VertexLabel) : VertexLabel := { label with id := .blank }

namespace Catalog

theorem propertyKey_of_find? {catalog : Catalog} {name : String} {key : PropertyKey}
    (known : catalog.propertyKeys.find? name = some key) (policy : Policy) :
    catalog.propertyKey policy name = .ok (key, catalog) := by
  rw [propertyKey, Directory.intern_of_find? known]
  rfl

theorem edgeLabel_of_find? {catalog : Catalog} {name : String} {label : EdgeLabel}
    (known : catalog.edgeLabels.find? name = some label) (policy : Policy) :
    catalog.edgeLabel policy name = .ok (label, catalog) := by
  rw [edgeLabel, Directory.intern_of_find? known]
  rfl

/-- A resolved key carries the name that was asked for. -/
theorem propertyKey_named {catalog grown : Catalog} {policy : Policy} {name : String}
    {key : PropertyKey} (resolved : catalog.propertyKey policy name = .ok (key, grown)) :
    key.name = name := by
  obtain ⟨⟨found, directory⟩, interned, same⟩ := map_eq_ok_iff.1 resolved
  cases same
  exact Directory.intern_named policy.key_makes interned

/-- The key of a new name is created if the policy permits it and an id is left. -/
theorem Sound.propertyKey_eq {catalog : Catalog} (sound : catalog.Sound) {name : String}
    (fresh : catalog.propertyKeys.find? name = none) (policy : Policy) :
    catalog.propertyKey policy name =
      if policy.autoCreate = false ∨ name = "" then .error (.unknownType .propertyKey name)
      else if catalog.propertyKeys.nextId = .last then
        .error (.config (.idOutOfRange .propertyKey catalog.propertyKeys.nextId))
      else
        .ok (policy.key name catalog.propertyKeys.nextId,
          { catalog with
            propertyKeys :=
              catalog.propertyKeys.append (policy.key name catalog.propertyKeys.nextId) }) := by
  have interned := sound.propertyKeys.intern_eq policy.key_makes fresh policy.autoCreate
  change (catalog.propertyKeys.intern name policy.autoCreate (policy.key name)).map _ = _
  rw [interned]
  split
  next => rfl
  next =>
    split
    next => rfl
    next => rfl

section

variable {catalog : Catalog} (sound : catalog.Sound) {policy : Policy} {name : String}
  {error : GraphError}
include sound

theorem Sound.propertyKey_eq_error_iff : catalog.propertyKey policy name = .error error ↔
    catalog.propertyKeys.Refuses policy.autoCreate name error :=
  map_eq_error_iff.trans (sound.propertyKeys.intern_eq_error_iff policy.key_makes)

theorem Sound.edgeLabel_eq_error_iff : catalog.edgeLabel policy name = .error error ↔
    catalog.edgeLabels.Refuses policy.autoCreate name error :=
  map_eq_error_iff.trans (sound.edgeLabels.intern_eq_error_iff EdgeLabel.named_makes)

theorem Sound.vertexLabel_eq_error_iff : catalog.vertexLabel policy name = .error error ↔
    catalog.vertexLabels.Refuses policy.autoCreate name error :=
  map_eq_error_iff.trans (sound.vertexLabels.intern_eq_error_iff VertexLabel.named_makes)

end

/-- The catalog grew out of an earlier one by interning names under the policy. -/
structure Interns (policy : Policy) (base catalog : Catalog) : Prop where
  propertyKeys : base.propertyKeys.Interns policy.autoCreate policy.key catalog.propertyKeys
  edgeLabels : base.edgeLabels.Interns policy.autoCreate EdgeLabel.named catalog.edgeLabels
  vertexLabels :
    base.vertexLabels.Interns policy.autoCreate VertexLabel.named catalog.vertexLabels

namespace Interns

variable {policy : Policy} {base catalog grown : Catalog} {name : String}

theorem refl (policy : Policy) (base : Catalog) : base.Interns policy base :=
  ⟨.refl _ _ _, .refl _ _ _, .refl _ _ _⟩

theorem propertyKey (interns : base.Interns policy catalog) (sound : catalog.Sound)
    {key : PropertyKey} (resolved : catalog.propertyKey policy name = .ok (key, grown)) :
    base.Interns policy grown := by
  obtain ⟨⟨found, directory⟩, interned, same⟩ := map_eq_ok_iff.1 resolved
  cases same
  exact ⟨interns.propertyKeys.intern sound.propertyKeys policy.key_makes interned,
    interns.edgeLabels, interns.vertexLabels⟩

theorem edgeLabel (interns : base.Interns policy catalog) (sound : catalog.Sound)
    {label : EdgeLabel} (resolved : catalog.edgeLabel policy name = .ok (label, grown)) :
    base.Interns policy grown := by
  obtain ⟨⟨found, directory⟩, interned, same⟩ := map_eq_ok_iff.1 resolved
  cases same
  exact ⟨interns.propertyKeys,
    interns.edgeLabels.intern sound.edgeLabels EdgeLabel.named_makes interned,
    interns.vertexLabels⟩

theorem vertexLabel (interns : base.Interns policy catalog) (sound : catalog.Sound)
    {label : VertexLabel} (resolved : catalog.vertexLabel policy name = .ok (label, grown)) :
    base.Interns policy grown := by
  obtain ⟨⟨found, directory⟩, interned, same⟩ := map_eq_ok_iff.1 resolved
  cases same
  exact ⟨interns.propertyKeys, interns.edgeLabels,
    interns.vertexLabels.intern sound.vertexLabels VertexLabel.named_makes interned⟩

/-! ### Two catalogs over one base -/

section

variable {first second : Catalog} (firstInterns : base.Interns policy first)
  (secondInterns : base.Interns policy second) (baseSound : base.Sound)
  (firstSound : first.Sound) (secondSound : second.Sound)
include firstInterns secondInterns baseSound firstSound secondSound

theorem propertyKey_agrees (name : String)
    (firstEnough : ∀ error, error.Exhausts → first.propertyKey policy name ≠ .error error)
    (secondEnough : ∀ error, error.Exhausts → second.propertyKey policy name ≠ .error error) :
    (first.propertyKey policy name).map (fun resolved => resolved.1.unnumbered) =
      (second.propertyKey policy name).map fun resolved => resolved.1.unnumbered := by
  have agreed := firstInterns.propertyKeys.intern_agrees secondInterns.propertyKeys
    baseSound.propertyKeys firstSound.propertyKeys secondSound.propertyKeys policy.key_makes
    PropertyKey.unnumbered (fun _ _ _ => rfl) name
    (fun error exhausts failed => firstEnough error exhausts (congrArg (Except.map _) failed))
    (fun error exhausts failed => secondEnough error exhausts (congrArg (Except.map _) failed))
  rw [Catalog.propertyKey, Catalog.propertyKey, map_map, map_map]
  exact agreed

theorem edgeLabel_agrees (name : String)
    (firstEnough : ∀ error, error.Exhausts → first.edgeLabel policy name ≠ .error error)
    (secondEnough : ∀ error, error.Exhausts → second.edgeLabel policy name ≠ .error error) :
    (first.edgeLabel policy name).map (fun resolved => resolved.1.unnumbered) =
      (second.edgeLabel policy name).map fun resolved => resolved.1.unnumbered := by
  have agreed := firstInterns.edgeLabels.intern_agrees secondInterns.edgeLabels
    baseSound.edgeLabels firstSound.edgeLabels secondSound.edgeLabels EdgeLabel.named_makes
    EdgeLabel.unnumbered (fun _ _ _ => rfl) name
    (fun error exhausts failed => firstEnough error exhausts (congrArg (Except.map _) failed))
    (fun error exhausts failed => secondEnough error exhausts (congrArg (Except.map _) failed))
  rw [Catalog.edgeLabel, Catalog.edgeLabel, map_map, map_map]
  exact agreed

theorem vertexLabel_agrees (name : String)
    (firstEnough : ∀ error, error.Exhausts → first.vertexLabel policy name ≠ .error error)
    (secondEnough : ∀ error, error.Exhausts → second.vertexLabel policy name ≠ .error error) :
    (first.vertexLabel policy name).map (fun resolved => resolved.1.unnumbered) =
      (second.vertexLabel policy name).map fun resolved => resolved.1.unnumbered := by
  have agreed := firstInterns.vertexLabels.intern_agrees secondInterns.vertexLabels
    baseSound.vertexLabels firstSound.vertexLabels secondSound.vertexLabels
    VertexLabel.named_makes
    VertexLabel.unnumbered (fun _ _ _ => rfl) name
    (fun error exhausts failed => firstEnough error exhausts (congrArg (Except.map _) failed))
    (fun error exhausts failed => secondEnough error exhausts (congrArg (Except.map _) failed))
  rw [Catalog.vertexLabel, Catalog.vertexLabel, map_map, map_map]
  exact agreed

end

end Interns

end Catalog

end PropertyGraph
