import PropertyGraph.Proofs.Catalog.Part
import PropertyGraph.Proofs.Catalog.Resolution

/-!
# Creating descriptors

Whether a descriptor can be created under a name depends on the names and the
numbers of its kind only: the name must be free, and the largest number must
have two successors.  The new descriptor is numbered behind the largest one.
A clash of ids is never the reason for a refusal, and a refusal changes
nothing.
-/

namespace PropertyGraph

/-- The number behind the largest of the given ones, or zero. -/
def followingNumber (numbers : List Nat) : Nat := numbers.max?.elim 0 (· + 1)

theorem followingNumber_eq_succ_iff {numbers : List Nat} {number : Nat} :
    followingNumber numbers = number + 1 ↔ numbers.max? = some number := by
  unfold followingNumber
  cases numbers.max? with
  | none => simp
  | some greatest => simp

/-- The number behind the largest is the least bound of the given ones. -/
theorem followingNumber_le_iff {numbers : List Nat} {limit : Nat} :
    followingNumber numbers ≤ limit ↔ ∀ number ∈ numbers, number < limit := by
  unfold followingNumber
  cases found : numbers.max? with
  | none =>
      rw [List.max?_eq_none_iff] at found
      simp [found]
  | some greatest =>
      obtain ⟨listed, most⟩ := List.max?_eq_some_iff.1 found
      exact ⟨fun bound number known => Nat.lt_of_le_of_lt (most number known) bound,
        fun above => above greatest listed⟩

theorem lt_followingNumber {numbers : List Nat} {number : Nat} (listed : number ∈ numbers) :
    number < followingNumber numbers :=
  followingNumber_le_iff.1 (Nat.le_refl _) number listed

/-- Why a name is not defined, given the names and numbers of its kind. -/
inductive RefusesDefinition (kind : Kind) (names : List String) (numbers : List Nat)
    (name : String) : GraphError → Prop where
  | nameless (empty : name = "") :
      RefusesDefinition kind names numbers name (.unknownType kind name)
  | taken (nonempty : name ≠ "") (present : name ∈ names) :
      RefusesDefinition kind names numbers name (.typeAlreadyExists kind name)
  | exhausted (nonempty : name ≠ "") (absent : name ∉ names)
      (full : numbers.max? = some (UInt64.size - 2)) :
      RefusesDefinition kind names numbers name (.config (.idOutOfRange kind .last))

/-- Why a name does not resolve, given the names and numbers of its kind. -/
inductive RefusesResolution (kind : Kind) (names : List String) (numbers : List Nat)
    (wanted : Bool) (name : String) : GraphError → Prop where
  | unknown (absent : name ∉ names) (unwanted : wanted = false ∨ name = "") :
      RefusesResolution kind names numbers wanted name (.unknownType kind name)
  | exhausted (absent : name ∉ names) (permitted : wanted = true) (nonempty : name ≠ "")
      (full : numbers.max? = some (UInt64.size - 2)) :
      RefusesResolution kind names numbers wanted name (.config (.idOutOfRange kind .last))

namespace Directory

variable {δ : Type} [Catalogued δ] {directory grown : Directory δ} {name : String}

def numbers (directory : Directory δ) : List Nat :=
  directory.entries.map fun entry => (Catalogued.id entry).number

theorem find?_eq_none_iff_notMem_names : directory.find? name = none ↔ name ∉ directory.names := by
  simp [find?_eq_none_iff, names]

theorem contains_eq_true_iff : directory.contains name = true ↔ name ∈ directory.names := by
  rw [contains, Option.isSome_iff_ne_none, ne_eq, find?_eq_none_iff_notMem_names, not_not]

namespace Ordered

variable (ordered : directory.Ordered)
include ordered

/-- The next id has the number behind the largest one. -/
theorem nextId_number : directory.nextId.number = followingNumber directory.numbers := by
  apply Nat.le_antisymm
  · exact nextId_le fun entry known => lt_followingNumber (List.mem_map_of_mem known)
  · rw [followingNumber_le_iff]
    intro number listed
    obtain ⟨entry, known, rfl⟩ := List.mem_map.1 listed
    exact ordered.lt_nextId known

/-- The next id is the last one exactly if the largest one is the last but one. -/
theorem nextId_eq_last_iff :
    directory.nextId = .last ↔ directory.numbers.max? = some (UInt64.size - 2) := by
  rw [← followingNumber_eq_succ_iff, ← ordered.nextId_number]
  constructor
  · intro full
    rw [full]
    rfl
  · exact fun full => SchemaId.ext_number full

theorem refuses_iff {wanted : Bool} {error : GraphError} :
    directory.Refuses wanted name error ↔
      RefusesResolution (Catalogued.kind δ) directory.names directory.numbers wanted name
        error := by
  constructor
  · intro refuses
    cases refuses with
    | unknown fresh unwanted => exact .unknown (find?_eq_none_iff_notMem_names.1 fresh) unwanted
    | exhausted fresh permitted nonempty full =>
        exact .exhausted (find?_eq_none_iff_notMem_names.1 fresh) permitted nonempty
          (ordered.nextId_eq_last_iff.1 full)
  · intro refuses
    cases refuses with
    | unknown absent unwanted => exact .unknown (find?_eq_none_iff_notMem_names.2 absent) unwanted
    | exhausted absent permitted nonempty full =>
        exact .exhausted (find?_eq_none_iff_notMem_names.2 absent) permitted nonempty
          (ordered.nextId_eq_last_iff.2 full)

variable {make : String → SchemaId → δ} (makes : Makes make)
include makes

/-- A new name is defined with the next id, unless that is the last one. -/
theorem define_eq :
    directory.define name (make name) =
      if name = "" then .error (.unknownType (Catalogued.kind δ) name)
      else if name ∈ directory.names then .error (.typeAlreadyExists (Catalogued.kind δ) name)
      else if directory.nextId = .last then
        .error (.config (.idOutOfRange (Catalogued.kind δ) .last))
      else .ok (make name directory.nextId, directory.append (make name directory.nextId)) := by
  simp only [define, contains_eq_true_iff]
  split
  next => rfl
  next =>
    split
    next => rfl
    next absent =>
      rw [ordered.create_eq makes (find?_eq_none_iff_notMem_names.2 absent)]
      split
      next full => rw [full]
      next => rfl

/-- Defining fails for the listed reasons and for no other. -/
theorem define_eq_error_iff {error : GraphError} :
    directory.define name (make name) = .error error ↔
      RefusesDefinition (Catalogued.kind δ) directory.names directory.numbers name error := by
  rw [ordered.define_eq makes]
  constructor
  · intro failed
    split at failed
    next empty =>
      cases failed
      exact .nameless empty
    next nonempty =>
      split at failed
      next present =>
        cases failed
        exact .taken nonempty present
      next absent =>
        split at failed
        next full =>
          cases failed
          exact .exhausted nonempty absent (ordered.nextId_eq_last_iff.1 full)
        next => cases failed
  · intro refuses
    cases refuses with
    | nameless empty => rw [if_pos empty]
    | taken nonempty present => rw [if_neg nonempty, if_pos present]
    | exhausted nonempty absent full =>
        rw [if_neg nonempty, if_neg absent, if_pos (ordered.nextId_eq_last_iff.2 full)]

/-- What is defined has the next id and goes to the end. -/
theorem define_eq_ok {entry : δ}
    (defined : directory.define name (make name) = .ok (entry, grown)) :
    entry = make name directory.nextId ∧ grown = directory.append entry := by
  rw [ordered.define_eq makes] at defined
  split at defined
  next => cases defined
  next =>
    split at defined
    next => cases defined
    next =>
      split at defined
      next => cases defined
      next =>
        cases defined
        exact ⟨rfl, rfl⟩

/-- What is interned is there already, or it has the next id and goes to the end. -/
theorem intern_eq_ok {wanted : Bool} {entry : δ}
    (interned : directory.intern name wanted (make name) = .ok (entry, grown)) :
    directory.find? name = some entry ∧ grown = directory ∨
      directory.find? name = none ∧ entry = make name directory.nextId ∧
        grown = directory.append entry := by
  cases found : directory.find? name with
  | some held =>
      rw [intern_of_find? found] at interned
      cases interned
      exact .inl ⟨rfl, rfl⟩
  | none =>
      rw [ordered.intern_eq makes found] at interned
      split at interned
      next => cases interned
      next =>
        split at interned
        next => cases interned
        next =>
          cases interned
          exact .inr ⟨rfl, rfl, rfl⟩

end Ordered

end Directory

/-- The descriptor that a policy gives a name of a kind. -/
def Policy.descriptor (policy : Policy) (kind : Kind) (name : String) (id : SchemaId) :
    Descriptor :=
  match kind with
  | .propertyKey => .propertyKey (policy.key name id)
  | .edgeLabel => .edgeLabel (.named name id)
  | .vertexLabel => .vertexLabel (.named name id)

namespace Catalog

def numbers (catalog : Catalog) (kind : Kind) : List Nat :=
  (catalog.snapshot.descriptors kind).map fun descriptor => descriptor.id.number

/-- The later catalog has one more descriptor, numbered behind the largest of its kind. -/
structure Gains (catalog : Catalog) (kind : Kind) (descriptor : Descriptor) (grown : Catalog) :
    Prop where
  number : descriptor.id.number = followingNumber (catalog.numbers kind)
  unused : ∀ other ∈ catalog.snapshot.descriptors kind, other.id ≠ descriptor.id
  descriptors : grown.snapshot.descriptors kind =
    catalog.snapshot.descriptors kind ++ [descriptor]
  others : ∀ other, other ≠ kind →
    grown.snapshot.descriptors other = catalog.snapshot.descriptors other

/--
A request to create a descriptor is refused for the given reasons only, and
then changes nothing; otherwise it is answered with the descriptor it adds.
-/
structure Creates (catalog : Catalog) (kind : Kind) (make : SchemaId → Descriptor)
    (refuses : GraphError → Prop) (served : Served) : Prop where
  refused_iff : ∀ error, served.answer = .error error ↔ refuses error
  unchanged : ∀ error, served.answer = .error error → served.catalog = catalog
  created : (∀ error, ¬ refuses error) → ∃ id,
    served.answer = .ok (.descriptor (make id)) ∧ catalog.Gains kind (make id) served.catalog

theorem Creates.ofCreation {catalog : Catalog} {kind : Kind} {make : SchemaId → Descriptor}
    {refuses : GraphError → Prop} {δ : Type} {wrap : δ → Descriptor}
    {creation : Except GraphError (δ × Catalog)}
    (refused : ∀ error, creation = .error error ↔ refuses error)
    (made : ∀ entry grown, creation = .ok (entry, grown) →
      ∃ id, wrap entry = make id ∧ catalog.Gains kind (make id) grown) :
    catalog.Creates kind make refuses (.ofCreation catalog wrap creation) := by
  cases creation with
  | error failure =>
      refine ⟨?_, fun _ _ => rfl, ?_⟩
      · intro error
        rw [← refused error]
        exact ⟨fun same => congrArg Except.error (Except.error.inj same),
          fun same => congrArg Except.error (Except.error.inj same)⟩
      · exact fun permitted => absurd ((refused failure).1 rfl) (permitted failure)
  | ok result =>
      obtain ⟨id, wrapped, gains⟩ := made result.1 result.2 rfl
      refine ⟨?_, ?_, ?_⟩
      · intro error
        rw [← refused error]
        exact ⟨nofun, nofun⟩
      · exact fun error failed => nomatch failed
      · intro _
        refine ⟨id, ?_, gains⟩
        rw [← wrapped]
        rfl

namespace Part

variable {δ : Type} [Catalogued δ] (part : Part δ) {catalog : Catalog}

theorem numbers (catalog : Catalog) :
    catalog.numbers (Catalogued.kind δ) = (part.directory catalog).numbers := by
  simp only [Catalog.numbers, part.descriptors, List.map_map, Function.comp_def, part.wrap_id,
    Directory.numbers]

variable (sound : catalog.Sound)
include sound

/-- A descriptor with the next id at the end of its directory is one more of its kind. -/
theorem gains {entry : δ} (numbered : Catalogued.id entry = (part.directory catalog).nextId) :
    catalog.Gains (Catalogued.kind δ) (part.wrap entry)
      (part.put catalog ((part.directory catalog).append entry)) := by
  have ordered := part.ordered sound
  refine ⟨?_, ?_, ?_, part.others catalog _⟩
  · rw [part.wrap_id, numbered, part.numbers, ordered.nextId_number]
  · rw [part.descriptors]
    refine List.forall_mem_map.2 fun other known same => ?_
    have below := ordered.lt_nextId known
    rw [← numbered, ← part.wrap_id, ← part.wrap_id, same] at below
    exact Nat.lt_irrefl _ below
  · rw [part.descriptors, part.descriptors, part.directory_put, Directory.append,
      List.map_append, List.map_singleton]

variable {make : String → SchemaId → δ} (makes : Directory.Makes make) (name : String)
include makes

/-- Defining a name creates a descriptor, unless a reason to refuse it is listed. -/
theorem creates_define :
    catalog.Creates (Catalogued.kind δ) (fun id => part.wrap (make name id))
      (RefusesDefinition (Catalogued.kind δ) (catalog.names (Catalogued.kind δ))
        (catalog.numbers (Catalogued.kind δ)) name)
      (.ofCreation catalog part.wrap
        (((part.directory catalog).define name (make name)).map fun (entry, grown) =>
          (entry, part.put catalog grown))) := by
  have ordered := part.ordered sound
  apply Creates.ofCreation
  · intro error
    rw [map_eq_error_iff, part.names, part.numbers]
    exact ordered.define_eq_error_iff makes
  · intro entry grown created
    obtain ⟨⟨found, directory⟩, defined, same⟩ := map_eq_ok_iff.1 created
    cases same
    obtain ⟨rfl, rfl⟩ := ordered.define_eq_ok makes defined
    exact ⟨_, rfl, part.gains sound (makes.id name _)⟩

/-- Interning leaves a catalog as it is, or adds one descriptor of its kind. -/
theorem eq_or_gains_of_intern {wanted : Bool} {entry : δ} {grown : Directory δ}
    (interned : (part.directory catalog).intern name wanted (make name) = .ok (entry, grown)) :
    part.put catalog grown = catalog ∨
      catalog.Gains (Catalogued.kind δ) (part.wrap entry) (part.put catalog grown) := by
  rcases (part.ordered sound).intern_eq_ok makes interned with ⟨-, rfl⟩ | ⟨-, rfl, rfl⟩
  · exact .inl (part.put_directory catalog)
  · exact .inr (part.gains sound (makes.id name _))

/-- Interning an unknown name creates a descriptor, unless a reason to refuse it is listed. -/
theorem creates_intern (absent : name ∉ catalog.names (Catalogued.kind δ)) (wanted : Bool) :
    catalog.Creates (Catalogued.kind δ) (fun id => part.wrap (make name id))
      (RefusesResolution (Catalogued.kind δ) (catalog.names (Catalogued.kind δ))
        (catalog.numbers (Catalogued.kind δ)) wanted name)
      (.ofCreation catalog part.wrap
        (((part.directory catalog).intern name wanted (make name)).map fun (entry, grown) =>
          (entry, part.put catalog grown))) := by
  have ordered := part.ordered sound
  rw [part.names] at absent
  apply Creates.ofCreation
  · intro error
    rw [map_eq_error_iff, ordered.intern_eq_error_iff makes, ordered.refuses_iff, part.names,
      part.numbers]
  · intro entry grown created
    obtain ⟨⟨found, directory⟩, interned, same⟩ := map_eq_ok_iff.1 created
    cases same
    rcases ordered.intern_eq_ok makes interned with ⟨known, -⟩ | ⟨-, rfl, rfl⟩
    · rw [Directory.find?_eq_none_iff_notMem_names.2 absent] at known
      cases known
    · exact ⟨_, rfl, part.gains sound (makes.id name _)⟩

omit makes

/-- Interning a known name answers its descriptor and changes nothing. -/
theorem serves_known {entry : δ} (known : entry ∈ (part.directory catalog).entries)
    (wanted : Bool) (make : SchemaId → δ) :
    Served.ofCreation catalog part.wrap
        (((part.directory catalog).intern (Catalogued.name entry) wanted make).map
          fun (entry, grown) => (entry, part.put catalog grown)) =
      ⟨.ok (.descriptor (part.wrap entry)), catalog⟩ := by
  rw [Directory.intern_of_find? ((part.ordered sound).find?_eq_some_iff.2 ⟨known, rfl⟩)]
  change Served.mk _ (part.put catalog (part.directory catalog)) = _
  rw [part.put_directory]

end Part

/-- The request defines a descriptor of the kind and name, made from the next id. -/
inductive Request.Defines : Request → Kind → String → (SchemaId → Descriptor) → Prop where
  | propertyKey (name : String) (dataType : DataType) (cardinality : Cardinality) :
      Defines (.definePropertyKey name dataType cardinality) .propertyKey name
        fun id => .propertyKey ⟨id, name, dataType, cardinality⟩
  | edgeLabel (name : String) :
      Defines (.defineEdgeLabel name) .edgeLabel name fun id => .edgeLabel ⟨id, name⟩
  | vertexLabel (name : String) :
      Defines (.defineVertexLabel name) .vertexLabel name fun id => .vertexLabel ⟨id, name⟩

/-- What is created in another form is served in that form. -/
theorem Served.ofCreation_map (catalog : Catalog) {δ : Type} (wrap : δ → Descriptor)
    (creation : Except GraphError (δ × Catalog)) :
    Served.ofCreation catalog id
        (creation.map fun (entry, grown) => (wrap entry, grown)) =
      Served.ofCreation catalog wrap creation := by
  cases creation <;> rfl

namespace Sound

variable {catalog : Catalog} (sound : catalog.Sound)
include sound

/-- Defining a descriptor is refused exactly for the listed reasons. -/
theorem serve_define {request : Request} {kind : Kind} {name : String}
    {make : SchemaId → Descriptor} (defines : request.Defines kind name make) :
    catalog.Creates kind make
      (RefusesDefinition kind (catalog.names kind) (catalog.numbers kind) name)
      (catalog.serve request) := by
  cases defines with
  | propertyKey name dataType cardinality =>
      exact Part.propertyKeys.creates_define sound
        (Policy.key_makes ⟨true, dataType, cardinality⟩) name
  | edgeLabel name => exact Part.edgeLabels.creates_define sound EdgeLabel.named_makes name
  | vertexLabel name =>
      exact Part.vertexLabels.creates_define sound VertexLabel.named_makes name

/-- A known name resolves to its descriptor under every policy. -/
theorem serve_resolve_known {kind : Kind} {descriptor : Descriptor}
    (known : descriptor ∈ catalog.snapshot.descriptors kind) (policy : Policy) :
    catalog.serve (.resolveOrCreate kind descriptor.name policy) =
      ⟨.ok (.descriptor descriptor), catalog⟩ := by
  cases kind with
  | propertyKey =>
      obtain ⟨key, listed, rfl⟩ := List.mem_map.1 known
      exact (Served.ofCreation_map catalog _ _).trans
        (Part.propertyKeys.serves_known sound listed policy.autoCreate _)
  | edgeLabel =>
      obtain ⟨label, listed, rfl⟩ := List.mem_map.1 known
      exact (Served.ofCreation_map catalog _ _).trans
        (Part.edgeLabels.serves_known sound listed policy.autoCreate _)
  | vertexLabel =>
      obtain ⟨label, listed, rfl⟩ := List.mem_map.1 known
      exact (Served.ofCreation_map catalog _ _).trans
        (Part.vertexLabels.serves_known sound listed policy.autoCreate _)

/-- An unknown name is refused exactly for the listed reasons, and otherwise created. -/
theorem serve_resolve_unknown {kind : Kind} {name : String} (absent : name ∉ catalog.names kind)
    (policy : Policy) :
    catalog.Creates kind (policy.descriptor kind name)
      (RefusesResolution kind (catalog.names kind) (catalog.numbers kind) policy.autoCreate name)
      (catalog.serve (.resolveOrCreate kind name policy)) := by
  cases kind with
  | propertyKey =>
      rw [Catalog.serve, Catalog.resolveOrCreate, Served.ofCreation_map]
      exact Part.propertyKeys.creates_intern sound policy.key_makes name absent policy.autoCreate
  | edgeLabel =>
      rw [Catalog.serve, Catalog.resolveOrCreate, Served.ofCreation_map]
      exact Part.edgeLabels.creates_intern sound EdgeLabel.named_makes name absent
        policy.autoCreate
  | vertexLabel =>
      rw [Catalog.serve, Catalog.resolveOrCreate, Served.ofCreation_map]
      exact Part.vertexLabels.creates_intern sound VertexLabel.named_makes name absent
        policy.autoCreate

end Sound

/-- Resolving names leaves a catalog as it is, or adds one descriptor. -/
theorem Resolves.eq_or_gains {policy : Policy} {catalog grown : Catalog}
    (resolves : catalog.Resolves policy grown) (sound : catalog.Sound) :
    grown = catalog ∨ ∃ kind descriptor, catalog.Gains kind descriptor grown := by
  cases resolves with
  | nothing => exact .inl rfl
  | propertyKeys interned =>
      exact (Part.propertyKeys.eq_or_gains_of_intern sound policy.key_makes _ interned).imp_right
        fun gains => ⟨_, _, gains⟩
  | edgeLabels interned =>
      exact (Part.edgeLabels.eq_or_gains_of_intern sound EdgeLabel.named_makes _
        interned).imp_right fun gains => ⟨_, _, gains⟩
  | vertexLabels interned =>
      exact (Part.vertexLabels.eq_or_gains_of_intern sound VertexLabel.named_makes _
        interned).imp_right fun gains => ⟨_, _, gains⟩

end Catalog

end PropertyGraph
