import PropertyGraph.Proofs.Catalog.Creation
import PropertyGraph.Proofs.Catalog.Naming

/-!
# Which snapshots are accepted

Restoring enters the descriptors of a snapshot one after the other.  Whether
all of them are entered depends on the set of them only: their ids and names
must differ, and the last id must not be in use.  Where the standard label is
missing, an id must be left for it.  The catalog then lists the descriptors in
ascending order, in whatever order the snapshot had them.
-/

namespace PropertyGraph

/-- The number behind the largest one does not depend on the order. -/
theorem followingNumber_perm {first second : List Nat} (permuted : first.Perm second) :
    followingNumber first = followingNumber second := by
  apply Nat.le_antisymm
  · exact followingNumber_le_iff.2 fun _ listed => lt_followingNumber (permuted.mem_iff.1 listed)
  · exact followingNumber_le_iff.2 fun _ listed => lt_followingNumber (permuted.mem_iff.2 listed)

namespace Directory

variable {δ : Type} [Catalogued δ] {directory grown : Directory δ} {entries others : List δ}

def ascending (entries : List δ) : List δ :=
  entries.mergeSort fun first second =>
    (Catalogued.id first).number ≤ (Catalogued.id second).number

/-- The descriptors can be entered into the empty directory. -/
structure Enterable (entries : List δ) : Prop where
  ids_nodup : (entries.map Catalogued.id).Nodup
  names_nodup : (entries.map Catalogued.name).Nodup
  bounded : ∀ entry ∈ entries, (Catalogued.id entry).number < UInt64.size - 1

theorem ascending_perm (entries : List δ) : (ascending entries).Perm entries :=
  List.mergeSort_perm entries _

theorem Enterable.perm (enterable : Enterable entries) (permuted : entries.Perm others) :
    Enterable others :=
  ⟨(permuted.map _).nodup_iff.1 enterable.ids_nodup,
    (permuted.map _).nodup_iff.1 enterable.names_nodup,
    fun entry listed => enterable.bounded entry (permuted.mem_iff.2 listed)⟩

theorem Enterable.sublist (enterable : Enterable entries) (fewer : others.Sublist entries) :
    Enterable others :=
  ⟨enterable.ids_nodup.sublist (fewer.map _), enterable.names_nodup.sublist (fewer.map _),
    fun entry listed => enterable.bounded entry (fewer.subset listed)⟩

theorem Ordered.enterable (ordered : directory.Ordered) : Enterable directory.entries := by
  refine ⟨List.pairwise_map.2 (ordered.ascending.imp ?_), ordered.names_nodup,
    fun entry known => SchemaId.ne_last_iff.1 (ordered.bounded entry known)⟩
  exact fun below same => Nat.ne_of_lt below (congrArg SchemaId.number same)

/-- Descriptors that can be entered make an ordered directory once they are sorted. -/
theorem Enterable.ordered (enterable : Enterable entries) :
    (⟨ascending entries⟩ : Directory δ).Ordered := by
  have sorted := enterable.perm (ascending_perm entries).symm
  refine ⟨?_, sorted.names_nodup,
    fun entry known => SchemaId.ne_last_iff.2 (sorted.bounded entry known)⟩
  have weakly : (ascending entries).Pairwise fun first second =>
      (Catalogued.id first).number ≤ (Catalogued.id second).number := by
    refine (List.pairwise_mergeSort ?_ ?_ entries).imp of_decide_eq_true
    · simpa using fun first second third => Nat.le_trans
    · simpa using fun first second => Nat.le_total _ _
  refine weakly.imp₂ ?_ (List.pairwise_map.1 sorted.ids_nodup)
  exact fun first second below apart =>
    Nat.lt_of_le_of_ne below fun same => apart (SchemaId.ext_number same)

/-- Ordered directories of the same descriptors are the same. -/
theorem Ordered.eq_of_perm (ordered : directory.Ordered) (grownOrdered : grown.Ordered)
    (permuted : directory.entries.Perm grown.entries) : directory = grown := by
  have same : directory.entries = grown.entries :=
    permuted.eq_of_pairwise (fun _ _ _ _ below above => absurd above (Nat.lt_asymm below))
      ordered.ascending grownOrdered.ascending
  cases directory
  cases grown
  exact congrArg Directory.mk same

/-- A descriptor whose id and name are free is entered, if its id has a successor. -/
theorem insert_of_enterable {entry : δ} (enterable : Enterable (entry :: directory.entries)) :
    directory.insert entry = .ok ⟨insertOrdered entry directory.entries⟩ := by
  have nameFree : directory.find? (Catalogued.name entry) = none :=
    find?_eq_none_iff_notMem_names.2 (List.nodup_cons.1 enterable.names_nodup).1
  have idFree : directory.byId? (Catalogued.id entry) = none := by
    rw [byId?_eq_none_iff]
    intro other known same
    exact (List.nodup_cons.1 enterable.ids_nodup).1 (same ▸ List.mem_map_of_mem known)
  have counted := SchemaId.ne_last_iff.2 (enterable.bounded entry List.mem_cons_self)
  simp [Directory.insert, nameFree, idFree, counted]

/--
Nothing is refused of what can be entered as a whole, whatever the order: a
descriptor that moves from the list to the directory leaves the whole the same.
-/
theorem insertAll_of_enterable (enterable : Enterable (directory.entries ++ entries)) :
    ∃ grown, directory.insertAll entries = .ok grown := by
  induction entries generalizing directory with
  | nil => exact ⟨directory, rfl⟩
  | cons entry rest ih =>
      have atFront := enterable.perm List.perm_middle
      have first : Enterable (entry :: directory.entries) :=
        atFront.sublist ((List.sublist_append_left directory.entries rest).cons_cons entry)
      have entered := (insertOrdered_perm entry directory.entries).symm.append_right rest
      rw [insertAll, insert_of_enterable first]
      exact ih (atFront.perm entered)

/-- The empty directory takes a list exactly if it can be entered, and then sorts it. -/
theorem insertAll_eq_ok_iff : Directory.empty.insertAll entries = .ok directory ↔
    Enterable entries ∧ directory = ⟨ascending entries⟩ := by
  have sorted : ∀ {grown : Directory δ}, Directory.empty.insertAll entries = .ok grown →
      Enterable entries ∧ grown = ⟨ascending entries⟩ := by
    intro grown inserted
    have ordered := Ordered.empty.insertAll inserted
    have permuted : grown.entries.Perm entries := insertAll_perm inserted
    have enterable := ordered.enterable.perm permuted
    exact ⟨enterable, ordered.eq_of_perm enterable.ordered
      (permuted.trans (ascending_perm entries).symm)⟩
  constructor
  · exact sorted
  · rintro ⟨enterable, rfl⟩
    have whole : Enterable ((Directory.empty : Directory δ).entries ++ entries) := enterable
    obtain ⟨grown, inserted⟩ := insertAll_of_enterable whole
    rw [inserted, (sorted inserted).2]

/-- Enterable lists of the same descriptors are sorted into one list. -/
theorem Enterable.ascending_eq (enterable : Enterable entries) (permuted : entries.Perm others) :
    ascending entries = ascending others := by
  have sorted : (ascending entries).Perm (ascending others) :=
    (ascending_perm entries).trans (permuted.trans (ascending_perm others).symm)
  exact congrArg Directory.entries
    (enterable.ordered.eq_of_perm (enterable.perm permuted).ordered sorted)

end Directory

namespace Snapshot

variable {snapshot other : Snapshot}

/-- The catalog with the descriptors in the order of the snapshot. -/
def catalog (snapshot : Snapshot) : Catalog :=
  ⟨⟨snapshot.propertyKeys⟩, ⟨snapshot.edgeLabels⟩, ⟨snapshot.vertexLabels⟩⟩

def sorted (snapshot : Snapshot) : Snapshot :=
  ⟨Directory.ascending snapshot.propertyKeys, Directory.ascending snapshot.edgeLabels,
    Directory.ascending snapshot.vertexLabels⟩

/-- The label of the standard name under the first id behind all others, if it is missing. -/
def missingLabels (snapshot : Snapshot) : List VertexLabel :=
  if standardVertexLabel ∈ snapshot.vertexLabels.map VertexLabel.name then []
  else
    [⟨⟨.ofNat (followingNumber (snapshot.vertexLabels.map fun label => label.id.number))⟩,
      standardVertexLabel⟩]

/-- Every list in ascending order, with the standard label behind the others if it is missing. -/
def completed (snapshot : Snapshot) : Snapshot :=
  { snapshot.sorted with
    vertexLabels := snapshot.sorted.vertexLabels ++ snapshot.missingLabels }

/-- The standard label is there, or no vertex label has the last id but one. -/
def HasRoom (snapshot : Snapshot) : Prop :=
  standardVertexLabel ∉ snapshot.vertexLabels.map VertexLabel.name →
    ∀ label ∈ snapshot.vertexLabels, label.id.number < UInt64.size - 2

/--
In each list the ids differ, the names differ and the last id is not in use;
an id is left for the standard label if it is missing.
-/
structure Acceptable (snapshot : Snapshot) : Prop where
  propertyKeys : Directory.Enterable snapshot.propertyKeys
  edgeLabels : Directory.Enterable snapshot.edgeLabels
  vertexLabels : Directory.Enterable snapshot.vertexLabels
  room : snapshot.HasRoom

/-- The other snapshot has the same descriptors in another order. -/
structure Permuted (snapshot other : Snapshot) : Prop where
  propertyKeys : snapshot.propertyKeys.Perm other.propertyKeys
  edgeLabels : snapshot.edgeLabels.Perm other.edgeLabels
  vertexLabels : snapshot.vertexLabels.Perm other.vertexLabels

namespace Permuted

variable (permuted : snapshot.Permuted other)

theorem sorted (snapshot : Snapshot) : snapshot.sorted.Permuted snapshot :=
  ⟨Directory.ascending_perm _, Directory.ascending_perm _, Directory.ascending_perm _⟩

include permuted

theorem symm : other.Permuted snapshot :=
  ⟨permuted.propertyKeys.symm, permuted.edgeLabels.symm, permuted.vertexLabels.symm⟩

theorem missingLabels_eq : snapshot.missingLabels = other.missingLabels := by
  have names := permuted.vertexLabels.map VertexLabel.name
  have numbers := permuted.vertexLabels.map fun label => label.id.number
  simp only [missingLabels, names.mem_iff, followingNumber_perm numbers]

theorem hasRoom (room : snapshot.HasRoom) : other.HasRoom := by
  intro missing label listed
  refine room ?_ label (permuted.vertexLabels.mem_iff.2 listed)
  rwa [(permuted.vertexLabels.map _).mem_iff]

theorem acceptable (acceptable : snapshot.Acceptable) : other.Acceptable :=
  ⟨acceptable.propertyKeys.perm permuted.propertyKeys,
    acceptable.edgeLabels.perm permuted.edgeLabels,
    acceptable.vertexLabels.perm permuted.vertexLabels, permuted.hasRoom acceptable.room⟩

theorem completed_eq (acceptable : snapshot.Acceptable) : snapshot.completed = other.completed := by
  simp only [completed, Snapshot.sorted, permuted.missingLabels_eq,
    acceptable.propertyKeys.ascending_eq permuted.propertyKeys,
    acceptable.edgeLabels.ascending_eq permuted.edgeLabels,
    acceptable.vertexLabels.ascending_eq permuted.vertexLabels]

end Permuted

end Snapshot

namespace Catalog

variable {snapshot : Snapshot} {grown : Catalog}

/-- Where the standard label is missing, there is room for it if the next id is not the last. -/
theorem hasRoom_iff (ordered : snapshot.catalog.vertexLabels.Ordered)
    (missing : standardVertexLabel ∉ snapshot.vertexLabels.map VertexLabel.name) :
    snapshot.HasRoom ↔ snapshot.catalog.vertexLabels.nextId ≠ .last := by
  have below : followingNumber snapshot.catalog.vertexLabels.numbers ≤ UInt64.size - 2 ↔
      ∀ label ∈ snapshot.vertexLabels, label.id.number < UInt64.size - 2 :=
    followingNumber_le_iff.trans List.forall_mem_map
  rw [SchemaId.ne_last_iff, ordered.nextId_number, Nat.lt_iff_le_pred (by decide)]
  exact ⟨fun room => below.2 (room missing), fun bound _ => below.1 bound⟩

/-- The standard label is added behind all others, unless it is there or no id is left. -/
theorem withStandardLabel_eq_ok_iff (ordered : snapshot.catalog.vertexLabels.Ordered) :
    snapshot.catalog.withStandardLabel = .ok grown ↔
      snapshot.HasRoom ∧
        grown = { snapshot with
          vertexLabels := snapshot.vertexLabels ++ snapshot.missingLabels }.catalog := by
  by_cases present : standardVertexLabel ∈ snapshot.vertexLabels.map VertexLabel.name
  · have held : snapshot.catalog.vertexLabels.contains standardVertexLabel = true :=
      Directory.contains_eq_true_iff.2 present
    rw [withStandardLabel, if_pos held, Snapshot.missingLabels, if_pos present, List.append_nil]
    exact ⟨fun same => ⟨fun missing => absurd present missing, (Except.ok.inj same).symm⟩,
      fun ⟨_, same⟩ => same ▸ rfl⟩
  · have missing : ¬ snapshot.catalog.vertexLabels.contains standardVertexLabel = true :=
      fun held => present (Directory.contains_eq_true_iff.1 held)
    have created := ordered.create_eq VertexLabel.named_makes
      (Directory.find?_eq_none_iff_notMem_names.2 present)
    have labels : snapshot.missingLabels =
        [.named standardVertexLabel snapshot.catalog.vertexLabels.nextId] := by
      have word : UInt64.ofNat snapshot.catalog.vertexLabels.nextId.number =
          snapshot.catalog.vertexLabels.nextId.word := UInt64.ofNat_toNat
      rw [ordered.nextId_number] at word
      rw [Snapshot.missingLabels, if_neg present]
      exact congrArg (fun word => [(⟨⟨word⟩, standardVertexLabel⟩ : VertexLabel)]) word
    rw [hasRoom_iff ordered present, withStandardLabel, if_neg missing]
    change (snapshot.catalog.vertexLabels.create (VertexLabel.named standardVertexLabel)).map _ =
      _ ↔ _
    rw [created, labels]
    split
    next full => exact ⟨nofun, fun ⟨room, _⟩ => absurd full room⟩
    next room =>
      exact ⟨fun same => ⟨room, (Except.ok.inj same).symm⟩, fun ⟨_, same⟩ => same ▸ rfl⟩

/-- Restoring succeeds exactly for acceptable snapshots, and completes them. -/
theorem restore_eq_ok_iff : Catalog.restore snapshot = .ok grown ↔
    snapshot.Acceptable ∧ grown = snapshot.completed.catalog := by
  have permuted := Snapshot.Permuted.sorted snapshot
  constructor
  · intro restored
    obtain ⟨propertyKeys, edgeLabels, vertexLabels, keys, edges, vertices, completed⟩ :=
      restore_eq_ok restored
    obtain ⟨enterableKeys, rfl⟩ := Directory.insertAll_eq_ok_iff.1 keys
    obtain ⟨enterableEdges, rfl⟩ := Directory.insertAll_eq_ok_iff.1 edges
    obtain ⟨enterableVertices, rfl⟩ := Directory.insertAll_eq_ok_iff.1 vertices
    have ordered : snapshot.sorted.catalog.vertexLabels.Ordered := enterableVertices.ordered
    obtain ⟨room, rfl⟩ := (withStandardLabel_eq_ok_iff ordered).1 completed
    refine ⟨⟨enterableKeys, enterableEdges, enterableVertices, permuted.hasRoom room⟩, ?_⟩
    rw [Snapshot.completed, permuted.missingLabels_eq]
  · rintro ⟨acceptable, rfl⟩
    have keys := Directory.insertAll_eq_ok_iff.2 ⟨acceptable.propertyKeys, rfl⟩
    have edges := Directory.insertAll_eq_ok_iff.2 ⟨acceptable.edgeLabels, rfl⟩
    have vertices := Directory.insertAll_eq_ok_iff.2 ⟨acceptable.vertexLabels, rfl⟩
    have ordered : snapshot.sorted.catalog.vertexLabels.Ordered :=
      acceptable.vertexLabels.ordered
    rw [restore, keys, edges, vertices]
    refine (withStandardLabel_eq_ok_iff ordered).2 ⟨permuted.symm.hasRoom acceptable.room, ?_⟩
    rw [Snapshot.completed, permuted.missingLabels_eq]

/--
Exactly the acceptable snapshots are restored.  The catalog has the snapshot's
descriptors in ascending order, and the standard label behind them if it was
missing; the order of the snapshot's lists makes no difference.
-/
theorem acceptable_restored (snapshot : Snapshot) :
    ((∃ catalog, Catalog.restore snapshot = .ok catalog) ↔ snapshot.Acceptable) ∧
      (∀ catalog, Catalog.restore snapshot = .ok catalog →
        catalog.snapshot = snapshot.completed) ∧
      ∀ other, snapshot.Permuted other → ∀ catalog,
        Catalog.restore snapshot = .ok catalog ↔ Catalog.restore other = .ok catalog := by
  refine ⟨?_, ?_, ?_⟩
  · simp only [restore_eq_ok_iff, exists_and_left, exists_eq, and_true]
  · intro catalog restored
    rw [(restore_eq_ok_iff.1 restored).2]
    rfl
  · intro other permuted catalog
    rw [restore_eq_ok_iff, restore_eq_ok_iff]
    constructor
    · rintro ⟨acceptable, rfl⟩
      exact ⟨permuted.acceptable acceptable, by rw [permuted.completed_eq acceptable]⟩
    · rintro ⟨acceptable, rfl⟩
      exact ⟨permuted.symm.acceptable acceptable, by rw [permuted.symm.completed_eq acceptable]⟩

/-- A snapshot out of order whose vertex labels leave one id for the standard label. -/
def tightSnapshot : Snapshot :=
  ⟨[⟨⟨5⟩, "age", .integer, .single⟩, ⟨⟨2⟩, "tags", .object, .set⟩], [],
    [⟨⟨18446744073709551613⟩, "far"⟩, ⟨⟨3⟩, "near"⟩]⟩

def reversedSnapshot : Snapshot :=
  ⟨tightSnapshot.propertyKeys.reverse, [], tightSnapshot.vertexLabels.reverse⟩

def tightCatalog : Catalog :=
  ⟨⟨[⟨⟨2⟩, "tags", .object, .set⟩, ⟨⟨5⟩, "age", .integer, .single⟩]⟩, ⟨[]⟩,
    ⟨[⟨⟨3⟩, "near"⟩, ⟨⟨18446744073709551613⟩, "far"⟩, ⟨⟨18446744073709551614⟩, "vertex"⟩]⟩⟩

/-- The standard label gets the one id that is left, and a vertex label may not have it. -/
theorem acceptable_restored_tight :
    tightSnapshot.Acceptable ∧ tightCatalog.snapshot = tightSnapshot.completed ∧
      Catalog.restore reversedSnapshot = .ok tightCatalog ∧
      ¬ ∃ catalog, Catalog.restore ⟨[], [], [⟨⟨18446744073709551614⟩, "far"⟩]⟩ = .ok catalog := by
  have restored : Catalog.restore tightSnapshot = .ok tightCatalog := by decide
  have permuted : tightSnapshot.Permuted reversedSnapshot :=
    ⟨(List.reverse_perm _).symm, .refl _, (List.reverse_perm _).symm⟩
  obtain ⟨accepted, completed, independent⟩ := acceptable_restored tightSnapshot
  refine ⟨accepted.1 ⟨tightCatalog, restored⟩, completed tightCatalog restored,
    (independent reversedSnapshot permuted tightCatalog).1 restored, ?_⟩
  rw [(acceptable_restored _).1]
  intro acceptable
  exact absurd (acceptable.room (by decide) _ List.mem_cons_self) (by decide)

end Catalog

end PropertyGraph
