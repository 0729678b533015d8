import PropertyGraph.Proofs.Catalog.Part
import PropertyGraph.Proofs.Catalog.Resolution

/-!
# Empty names

Resolving and defining refuse to create a descriptor under the empty name.
Restoring asks nothing of the names in a snapshot, so a restored catalog has
such a descriptor exactly if the snapshot has it.
-/

namespace PropertyGraph

namespace Directory

variable {δ : Type} [Catalogued δ] {directory grown : Directory δ}

/-- Every descriptor that is new in the second directory has a name that is not empty. -/
def AddsNamed (directory grown : Directory δ) : Prop :=
  ∀ entry ∈ grown.entries, entry ∈ directory.entries ∨ Catalogued.name entry ≠ ""

section

variable {make : SchemaId → δ} {name : String} {entry : δ}

theorem create_addsNamed (created : directory.create make = .ok (entry, grown))
    (named : ∀ id, Catalogued.name (make id) ≠ "") : directory.AddsNamed grown := by
  obtain ⟨after, inserted, same⟩ := map_eq_ok_iff.1 created
  cases same
  obtain ⟨-, -, -, rfl⟩ := insert_eq_ok inserted
  intro other known
  rcases mem_insertOrdered.1 known with rfl | before
  · exact .inr (named _)
  · exact .inl before

theorem intern_addsNamed {wanted : Bool}
    (interned : directory.intern name wanted make = .ok (entry, grown))
    (names : ∀ id, Catalogued.name (make id) = name) : directory.AddsNamed grown := by
  unfold intern at interned
  split at interned
  next =>
    cases interned
    exact fun _ known => .inl known
  next =>
    split at interned
    next => cases interned
    next permitted =>
      rw [not_or] at permitted
      exact create_addsNamed interned fun id => by rw [names]; exact permitted.2

theorem define_addsNamed (defined : directory.define name make = .ok (entry, grown))
    (names : ∀ id, Catalogued.name (make id) = name) : directory.AddsNamed grown := by
  unfold define at defined
  split at defined
  next => cases defined
  next nonempty =>
    split at defined
    next => cases defined
    next => exact create_addsNamed defined fun id => by rw [names]; exact nonempty

end

/-- The empty name is found or refused, and never created. -/
theorem intern_empty (directory : Directory δ) (wanted : Bool) (make : SchemaId → δ) :
    directory.intern "" wanted make =
      match directory.find? "" with
      | some entry => .ok (entry, directory)
      | none => .error (.unknownType (Catalogued.kind δ) "") := by
  cases found : directory.find? "" with
  | some entry => exact intern_of_find? found wanted make
  | none => simp only [intern, found, or_true, if_true]

/-- Entering descriptors adds these and no others. -/
theorem insertAll_perm {entries : List δ} (inserted : directory.insertAll entries = .ok grown) :
    grown.entries.Perm (directory.entries ++ entries) := by
  induction entries generalizing directory with
  | nil =>
      cases inserted
      rw [List.append_nil]
  | cons entry rest ih =>
      unfold Directory.insertAll at inserted
      split at inserted
      next first insertedFirst =>
        obtain ⟨-, -, -, rfl⟩ := insert_eq_ok insertedFirst
        have entered := (insertOrdered_perm entry directory.entries).append_right rest
        exact (ih inserted).trans (entered.trans List.perm_middle.symm)
      next => cases inserted

end Directory

namespace Catalog

variable {catalog grown : Catalog}

def AddsNamed (catalog grown : Catalog) : Prop :=
  ∀ kind, ∀ descriptor ∈ grown.snapshot.descriptors kind,
    descriptor ∈ catalog.snapshot.descriptors kind ∨ descriptor.name ≠ ""

namespace AddsNamed

theorem refl (catalog : Catalog) : catalog.AddsNamed catalog := fun _ _ known => .inl known

theorem trans {first second third : Catalog} (earlier : first.AddsNamed second)
    (later : second.AddsNamed third) : first.AddsNamed third := by
  intro kind descriptor known
  rcases later kind descriptor known with before | named
  · exact earlier kind descriptor before
  · exact .inr named

/-- What is added to one directory is all that is added to the catalog. -/
theorem put {δ : Type} [Catalogued δ] (part : Part δ) {directory : Directory δ}
    (adds : (part.directory catalog).AddsNamed directory) :
    catalog.AddsNamed (part.put catalog directory) := by
  intro kind descriptor known
  by_cases here : kind = Catalogued.kind δ
  · rw [here, part.descriptors, part.directory_put] at known
    obtain ⟨entry, listed, rfl⟩ := List.mem_map.1 known
    rw [here, part.descriptors, part.wrap_name]
    exact (adds entry listed).imp_left List.mem_map_of_mem
  · rw [part.others catalog directory kind here] at known
    exact .inl known

/-- Resolving a name adds nothing under the empty name. -/
theorem resolves {policy : Policy} (resolves : catalog.Resolves policy grown) :
    catalog.AddsNamed grown := by
  cases resolves with
  | nothing => exact .refl catalog
  | propertyKeys interned =>
      exact put Part.propertyKeys (Directory.intern_addsNamed interned fun _ => rfl)
  | edgeLabels interned =>
      exact put Part.edgeLabels (Directory.intern_addsNamed interned fun _ => rfl)
  | vertexLabels interned =>
      exact put Part.vertexLabels (Directory.intern_addsNamed interned fun _ => rfl)

theorem ofCreation {δ : Type} {wrap : δ → Descriptor}
    {creation : Except GraphError (δ × Catalog)}
    (adds : ∀ entry grown, creation = .ok (entry, grown) → catalog.AddsNamed grown) :
    catalog.AddsNamed (Served.ofCreation catalog wrap creation).catalog :=
  Served.catalog_ofCreation catalog.AddsNamed (.refl catalog) adds

/-- Whatever is asked of a catalog, what it adds has a name. -/
theorem serve (catalog : Catalog) (request : Request) :
    catalog.AddsNamed (catalog.serve request).catalog := by
  cases request with
  | definePropertyKey name dataType cardinality =>
      refine ofCreation fun key grown defined => ?_
      obtain ⟨⟨created, directory⟩, found, same⟩ := map_eq_ok_iff.1 defined
      cases same
      exact put Part.propertyKeys (Directory.define_addsNamed found fun _ => rfl)
  | defineEdgeLabel name =>
      refine ofCreation fun label grown defined => ?_
      obtain ⟨⟨created, directory⟩, found, same⟩ := map_eq_ok_iff.1 defined
      cases same
      exact put Part.edgeLabels (Directory.define_addsNamed found fun _ => rfl)
  | defineVertexLabel name =>
      refine ofCreation fun label grown defined => ?_
      obtain ⟨⟨created, directory⟩, found, same⟩ := map_eq_ok_iff.1 defined
      cases same
      exact put Part.vertexLabels (Directory.define_addsNamed found fun _ => rfl)
  | resolve kind name => exact resolves (Resolves.served catalog kind .strict name)
  | resolveOrCreate kind name policy => exact resolves (Resolves.served catalog kind policy name)
  | lookup kind name => exact .refl catalog
  | byId kind id => exact .refl catalog
  | contains kind name => exact .refl catalog
  | names kind => exact .refl catalog
  | length kind => exact .refl catalog
  | snapshot => exact .refl catalog

end AddsNamed

/-- The empty name is resolved if a descriptor of it is there already, whatever the policy. -/
theorem resolveOrCreate_empty (catalog : Catalog) (kind : Kind) (policy : Policy) :
    catalog.resolveOrCreate kind policy "" =
      match catalog.lookup? kind "" with
      | some descriptor => .ok (descriptor, catalog)
      | none => .error (.unknownType kind "") := by
  cases kind with
  | propertyKey =>
      simp only [resolveOrCreate, propertyKey, lookup?, Directory.intern_empty]
      cases catalog.propertyKeys.find? "" <;> rfl
  | edgeLabel =>
      simp only [resolveOrCreate, edgeLabel, lookup?, Directory.intern_empty]
      cases catalog.edgeLabels.find? "" <;> rfl
  | vertexLabel =>
      simp only [resolveOrCreate, vertexLabel, lookup?, Directory.intern_empty]
      cases catalog.vertexLabels.find? "" <;> rfl

/-- Adding the standard label takes nothing away, and what it adds has a name. -/
theorem withStandardLabel_descriptors (completed : catalog.withStandardLabel = .ok grown) :
    (∀ kind, ∀ descriptor ∈ catalog.snapshot.descriptors kind,
        descriptor ∈ grown.snapshot.descriptors kind) ∧ catalog.AddsNamed grown := by
  have named : standardVertexLabel ≠ "" := by decide
  rcases withStandardLabel_cases completed with ⟨-, rfl⟩ | ⟨label, labels, created, rfl⟩
  · exact ⟨fun _ _ known => known, .refl grown⟩
  · refine ⟨?_, .put Part.vertexLabels (Directory.create_addsNamed created fun _ => named)⟩
    obtain ⟨after, inserted, made⟩ := map_eq_ok_iff.1 created
    cases made
    obtain ⟨-, -, -, rfl⟩ := Directory.insert_eq_ok inserted
    intro kind descriptor known
    cases kind with
    | propertyKey => exact known
    | edgeLabel => exact known
    | vertexLabel =>
        obtain ⟨old, listed, rfl⟩ := List.mem_map.1 known
        exact List.mem_map_of_mem (Directory.mem_insertOrdered.2 (.inr listed))

/-- A restored catalog has the descriptors of the snapshot, and what else it has is named. -/
theorem restore_descriptors {snapshot : Snapshot}
    (restored : Catalog.restore snapshot = .ok catalog) (kind : Kind) :
    (∀ descriptor ∈ snapshot.descriptors kind,
        descriptor ∈ catalog.snapshot.descriptors kind) ∧
      ∀ descriptor ∈ catalog.snapshot.descriptors kind,
        descriptor ∈ snapshot.descriptors kind ∨ descriptor.name ≠ "" := by
  obtain ⟨propertyKeys, edgeLabels, vertexLabels, keys, edges, vertices, completed⟩ :=
    restore_eq_ok restored
  obtain ⟨kept, adds⟩ := withStandardLabel_descriptors completed
  have entered : ∀ descriptor,
      descriptor ∈ (⟨propertyKeys, edgeLabels, vertexLabels⟩ : Catalog).snapshot.descriptors kind ↔
        descriptor ∈ snapshot.descriptors kind := by
    intro descriptor
    cases kind with
    | propertyKey => exact ((Directory.insertAll_perm keys).map _).mem_iff
    | edgeLabel => exact ((Directory.insertAll_perm edges).map _).mem_iff
    | vertexLabel => exact ((Directory.insertAll_perm vertices).map _).mem_iff
  refine ⟨?_, ?_⟩
  · intro descriptor listed
    exact kept kind descriptor ((entered descriptor).2 listed)
  · intro descriptor known
    exact (adds kind descriptor known).imp_left (entered descriptor).1

/--
The catalog has the descriptors of the empty name that the snapshot has.  It
resolves the empty name to one of these if there is one, and refuses it
otherwise; it never defines it.
-/
structure EmptyNamesFrom (catalog : Catalog) (snapshot : Snapshot) (kind : Kind) : Prop where
  descriptors : ∀ descriptor : Descriptor, descriptor.name = "" →
    (descriptor ∈ catalog.snapshot.descriptors kind ↔ descriptor ∈ snapshot.descriptors kind)
  unknown : (∀ descriptor ∈ snapshot.descriptors kind, descriptor.name ≠ "") →
    ∀ policy, catalog.resolveOrCreate kind policy "" = .error (.unknownType kind "")
  resolved : ∀ descriptor ∈ snapshot.descriptors kind, descriptor.name = "" →
    ∀ policy, catalog.resolveOrCreate kind policy "" = .ok (descriptor, catalog)
  definePropertyKey : ∀ dataType cardinality,
    catalog.definePropertyKey "" dataType cardinality = .error (.unknownType .propertyKey "")
  defineEdgeLabel : catalog.defineEdgeLabel "" = .error (.unknownType .edgeLabel "")
  defineVertexLabel : catalog.defineVertexLabel "" = .error (.unknownType .vertexLabel "")

/-- What a restored catalog leads to by adding names has the empty names of the snapshot. -/
theorem Leads.emptyNamesFrom (leads : catalog.Leads grown) (adds : catalog.AddsNamed grown)
    {snapshot : Snapshot} (restored : Catalog.restore snapshot = .ok catalog) (kind : Kind) :
    grown.EmptyNamesFrom snapshot kind := by
  obtain ⟨entered, others⟩ := restore_descriptors restored kind
  have views := leads.sound.views_agree kind
  have nameless : ∀ descriptor : Descriptor, descriptor.name = "" →
      (descriptor ∈ grown.snapshot.descriptors kind ↔
        descriptor ∈ snapshot.descriptors kind) := by
    intro descriptor empty
    constructor
    · intro known
      rcases adds kind descriptor known with before | named
      · exact (others descriptor before).resolve_right (absurd empty)
      · exact absurd empty named
    · exact fun listed => (leads.grows.descriptors kind).subset (entered descriptor listed)
  refine ⟨nameless, ?_, ?_, fun _ _ => rfl, rfl, rfl⟩
  · intro named policy
    have missing : grown.lookup? kind "" = none := by
      rw [Option.eq_none_iff_forall_ne_some]
      intro descriptor found
      obtain ⟨known, empty⟩ := (views.lookup?_iff "" descriptor).1 found
      exact named descriptor ((nameless descriptor empty).1 known) empty
    rw [resolveOrCreate_empty, missing]
  · intro descriptor listed empty policy
    have found := (views.lookup?_iff "" descriptor).2
      ⟨(nameless descriptor empty).2 listed, empty⟩
    rw [resolveOrCreate_empty, found]

end Catalog

end PropertyGraph
