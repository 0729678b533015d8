import Mathlib.Logic.Function.Basic
import PropertyGraph.Proofs.Catalog.Restoration

/-!
# Views of a catalog

The descriptors of a kind are read by name, by id, as names, as a number and
as a part of the snapshot.  In a sound catalog all of these describe one set,
and the lookups by name and by id are inverse to each other.  Two tables that
every insertion fills, one under names and one under ids, are these lookups,
whatever the insertions were.
-/

namespace PropertyGraph

/-- The lookup finds exactly the listed entries, each under its key. -/
def Finds {α κ : Type} (entries : List α) (key : α → κ) (find : κ → Option α) : Prop :=
  ∀ wanted entry, find wanted = some entry ↔ entry ∈ entries ∧ key entry = wanted

namespace Finds

variable {α κ : Type} {entries grown : List α} {key : α → κ} {find : κ → Option α}

/-- With one more entry listed, the lookup changes under the key of this entry only. -/
theorem eq_update [DecidableEq κ] (finds : Finds entries key find) {later : κ → Option α}
    (laterFinds : Finds grown key later) {entry : α}
    (added : ∀ other, other ∈ grown ↔ other = entry ∨ other ∈ entries) :
    later = Function.update find (key entry) (some entry) := by
  funext wanted
  by_cases here : wanted = key entry
  · rw [here, Function.update_self]
    exact (laterFinds _ _).2 ⟨(added entry).2 (.inl rfl), rfl⟩
  · rw [Function.update_of_ne here]
    refine Option.ext fun other => ?_
    rw [laterFinds, finds, added]
    constructor
    · rintro ⟨rfl | listed, same⟩
      · exact absurd same.symm here
      · exact ⟨listed, same⟩
    · rintro ⟨listed, same⟩
      exact ⟨.inr listed, same⟩

/-- Entries in another form are found in that form, if it keeps their keys. -/
theorem map (finds : Finds entries key find) {β : Type} {wrap : α → β} {wrapKey : β → κ}
    (keeps : ∀ entry, wrapKey (wrap entry) = key entry) :
    Finds (entries.map wrap) wrapKey fun wanted => (find wanted).map wrap := by
  intro wanted other
  simp only [Option.map_eq_some_iff, finds wanted, List.mem_map]
  constructor
  · rintro ⟨entry, ⟨listed, rfl⟩, rfl⟩
    exact ⟨⟨entry, listed, rfl⟩, keeps entry⟩
  · rintro ⟨⟨entry, listed, rfl⟩, rfl⟩
    exact ⟨entry, ⟨listed, (keeps entry).symm⟩, rfl⟩

end Finds

namespace Directory

variable {δ : Type} [Catalogued δ] {directory grown : Directory δ}

/--
Insertions lead from the empty directory to the given one, and each of them
enters its descriptor in two tables, under its name and under its id.
-/
inductive Files : Directory δ → (String → Option δ) → (SchemaId → Option δ) → Prop where
  | empty : Files .empty (fun _ => none) (fun _ => none)
  | insert {directory grown : Directory δ} {byName : String → Option δ}
      {byId : SchemaId → Option δ} {entry : δ} (files : Files directory byName byId)
      (inserted : directory.insert entry = .ok grown) :
      Files grown (Function.update byName (Catalogued.name entry) (some entry))
        (Function.update byId (Catalogued.id entry) (some entry))

/-- In whichever way the directory came about, its two tables are the two lookups. -/
def TablesAgree (directory : Directory δ) : Prop :=
  ∀ byName byId, directory.Files byName byId ↔
    byName = directory.find? ∧ byId = directory.byId?

namespace Ordered

variable (ordered : directory.Ordered)
include ordered

theorem finds_name : Finds directory.entries Catalogued.name directory.find? :=
  fun _ _ => ordered.find?_eq_some_iff

theorem finds_id : Finds directory.entries Catalogued.id directory.byId? :=
  fun _ _ => ordered.byId?_eq_some_iff

/-- A new descriptor is found under its name and its id, and all others as before. -/
theorem lookups_insert {entry : δ} (inserted : directory.insert entry = .ok grown) :
    grown.find? = Function.update directory.find? (Catalogued.name entry) (some entry) ∧
      grown.byId? = Function.update directory.byId? (Catalogued.id entry) (some entry) := by
  have grownOrdered := ordered.insert inserted
  obtain ⟨-, -, -, rfl⟩ := insert_eq_ok inserted
  exact ⟨ordered.finds_name.eq_update grownOrdered.finds_name fun _ => mem_insertOrdered,
    ordered.finds_id.eq_update grownOrdered.finds_id fun _ => mem_insertOrdered⟩

end Ordered

/-- The tables that insertions fill are the lookups of the directory they lead to. -/
theorem Files.tables {byName : String → Option δ} {byId : SchemaId → Option δ}
    (files : directory.Files byName byId) :
    directory.Ordered ∧ byName = directory.find? ∧ byId = directory.byId? := by
  induction files with
  | empty => exact ⟨.empty, rfl, rfl⟩
  | insert _ inserted ih =>
      obtain ⟨ordered, rfl, rfl⟩ := ih
      obtain ⟨named, numbered⟩ := ordered.lookups_insert inserted
      exact ⟨ordered.insert inserted, named.symm, numbered.symm⟩

theorem Files.insertAll {byName : String → Option δ} {byId : SchemaId → Option δ}
    {entries : List δ} (files : directory.Files byName byId)
    (inserted : directory.insertAll entries = .ok grown) :
    ∃ laterByName laterById, grown.Files laterByName laterById :=
  insertAll_keeps (fun directory => ∃ byName byId, directory.Files byName byId)
    (fun ⟨_, _, files⟩ inserted => ⟨_, _, files.insert inserted⟩) ⟨byName, byId, files⟩ inserted

theorem Ordered.tables_agree (ordered : directory.Ordered) : directory.TablesAgree := by
  intro byName byId
  constructor
  · exact fun files => files.tables.2
  · rintro ⟨rfl, rfl⟩
    obtain ⟨byName, byId, files⟩ := Files.empty.insertAll ordered.insertAll_entries
    obtain ⟨-, rfl, rfl⟩ := files.tables
    exact files

end Directory

def Snapshot.descriptors (snapshot : Snapshot) : Kind → List Descriptor
  | .propertyKey => snapshot.propertyKeys.map .propertyKey
  | .edgeLabel => snapshot.edgeLabels.map .edgeLabel
  | .vertexLabel => snapshot.vertexLabels.map .vertexLabel

/-- The ways to read the descriptors of one kind describe the same descriptors. -/
structure Views (kind : Kind) (lookup? : String → Option Descriptor)
    (byId? : SchemaId → Option Descriptor) (contains : String → Bool) (names : List String)
    (length : Nat) (descriptors : List Descriptor) : Prop where
  kind_eq : ∀ descriptor ∈ descriptors, descriptor.kind = kind
  ascending : descriptors.Pairwise fun first second => first.id.number < second.id.number
  names_eq : names = descriptors.map Descriptor.name
  names_nodup : names.Nodup
  length_eq : length = descriptors.length
  contains_iff : ∀ name, contains name = true ↔ name ∈ names
  lookup?_iff : ∀ name descriptor,
    lookup? name = some descriptor ↔ descriptor ∈ descriptors ∧ descriptor.name = name
  byId?_iff : ∀ id descriptor,
    byId? id = some descriptor ↔ descriptor ∈ descriptors ∧ descriptor.id = id
  byId?_of_lookup? : ∀ name descriptor, lookup? name = some descriptor →
    descriptor.name = name ∧ byId? descriptor.id = some descriptor
  lookup?_of_byId? : ∀ id descriptor, byId? id = some descriptor →
    descriptor.id = id ∧ lookup? descriptor.name = some descriptor

/-- The ways to read an ordered directory describe the same descriptors. -/
theorem Directory.Ordered.views {δ : Type} [Catalogued δ] {directory : Directory δ}
    (ordered : directory.Ordered) {wrap : δ → Descriptor}
    (kind : ∀ entry, (wrap entry).kind = Catalogued.kind δ)
    (id : ∀ entry, (wrap entry).id = Catalogued.id entry)
    (name : ∀ entry, (wrap entry).name = Catalogued.name entry) :
    Views (Catalogued.kind δ) (fun name => (directory.find? name).map wrap)
      (fun id => (directory.byId? id).map wrap) directory.contains directory.names
      directory.length (directory.entries.map wrap) := by
  have lookup := ordered.finds_name.map name
  have numbered := ordered.finds_id.map id
  refine ⟨?_, ?_, ?_, ordered.names_nodup, ?_, ?_, lookup, numbered, ?_, ?_⟩
  · exact List.forall_mem_map.2 fun entry _ => kind entry
  · exact List.pairwise_map.2 (ordered.ascending.imp fun below => by rwa [id, id])
  · simp only [names, List.map_map, Function.comp_def, name]
  · rw [length, List.length_map]
  · intro wanted
    simp only [contains, names, Option.isSome_iff_exists, ordered.find?_eq_some_iff, List.mem_map]
  · intro wanted descriptor found
    obtain ⟨known, named⟩ := (lookup wanted descriptor).1 found
    exact ⟨named, (numbered _ descriptor).2 ⟨known, rfl⟩⟩
  · intro wanted descriptor found
    obtain ⟨known, same⟩ := (numbered wanted descriptor).1 found
    exact ⟨same, (lookup _ descriptor).2 ⟨known, rfl⟩⟩

namespace Catalog

def ViewsAgree (catalog : Catalog) (kind : Kind) : Prop :=
  Views kind (catalog.lookup? kind) (catalog.byId? kind) (catalog.contains kind)
    (catalog.names kind) (catalog.length kind) (catalog.snapshot.descriptors kind)

/-- The tables that insertions fill for a kind are the lookups of the catalog. -/
def TablesAgree (catalog : Catalog) : Kind → Prop
  | .propertyKey => catalog.propertyKeys.TablesAgree
  | .edgeLabel => catalog.edgeLabels.TablesAgree
  | .vertexLabel => catalog.vertexLabels.TablesAgree

/-- Every descriptor of the kind is in the later catalog too, unchanged. -/
structure Keeps (catalog later : Catalog) (kind : Kind) : Prop where
  descriptors : catalog.snapshot.descriptors kind <+: later.snapshot.descriptors kind
  lookup? : ∀ name descriptor, catalog.lookup? kind name = some descriptor →
    later.lookup? kind name = some descriptor
  byId? : ∀ id descriptor, catalog.byId? kind id = some descriptor →
    later.byId? kind id = some descriptor

variable {catalog later : Catalog}

theorem Sound.views_agree (sound : catalog.Sound) (kind : Kind) : catalog.ViewsAgree kind := by
  cases kind with
  | propertyKey => exact sound.propertyKeys.views (fun _ => rfl) (fun _ => rfl) fun _ => rfl
  | edgeLabel => exact sound.edgeLabels.views (fun _ => rfl) (fun _ => rfl) fun _ => rfl
  | vertexLabel => exact sound.vertexLabels.views (fun _ => rfl) (fun _ => rfl) fun _ => rfl

theorem Sound.tables_agree (sound : catalog.Sound) (kind : Kind) : catalog.TablesAgree kind := by
  cases kind with
  | propertyKey => exact sound.propertyKeys.tables_agree
  | edgeLabel => exact sound.edgeLabels.tables_agree
  | vertexLabel => exact sound.vertexLabels.tables_agree

theorem Grows.descriptors (grows : catalog.Grows later) (kind : Kind) :
    catalog.snapshot.descriptors kind <+: later.snapshot.descriptors kind := by
  cases kind with
  | propertyKey => exact List.IsPrefix.map _ grows.propertyKeys
  | edgeLabel => exact List.IsPrefix.map _ grows.edgeLabels
  | vertexLabel => exact List.IsPrefix.map _ grows.vertexLabels

/-- A grown catalog finds what was found before, under the same name and the same id. -/
theorem Grows.keeps (grows : catalog.Grows later) (sound : catalog.Sound)
    (laterSound : later.Sound) (kind : Kind) : catalog.Keeps later kind := by
  have views := sound.views_agree kind
  have laterViews := laterSound.views_agree kind
  have same := grows.descriptors kind
  refine ⟨same, ?_, ?_⟩
  · intro name descriptor found
    obtain ⟨known, named⟩ := (views.lookup?_iff name descriptor).1 found
    exact (laterViews.lookup?_iff name descriptor).2 ⟨same.subset known, named⟩
  · intro id descriptor found
    obtain ⟨known, numbered⟩ := (views.byId?_iff id descriptor).1 found
    exact (laterViews.byId?_iff id descriptor).2 ⟨same.subset known, numbered⟩

end Catalog

end PropertyGraph
