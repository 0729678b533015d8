import PropertyGraph.Proofs.Catalog.Growth

/-!
# Restoring a catalog from its own snapshot

The descriptors of an ordered directory can be entered again one after the
other: none is refused, and each goes to the end.  A counter that every
insertion raises above the new id is no further state: whatever the insertions
were, it has arrived at the next id.  So a catalog that has the standard label
is what restoring its snapshot gives.
-/

namespace PropertyGraph

namespace Directory

variable {δ : Type} [Catalogued δ] {directory : Directory δ}

/--
Insertions lead from the empty directory to the given one, and a counter that
starts at zero and is raised by each of them above the new id stands at the
given number.
-/
inductive Counts : Directory δ → Nat → Prop where
  | empty : Counts .empty 0
  | insert {directory grown : Directory δ} {next : Nat} {entry : δ}
      (counts : Counts directory next) (inserted : directory.insert entry = .ok grown) :
      Counts grown (max next ((Catalogued.id entry).number + 1))

/-- Of an ordered list the descriptors behind a place are entered without refusal. -/
theorem insertAll_eq (front rest : List δ) (ordered : (⟨front ++ rest⟩ : Directory δ).Ordered) :
    (⟨front⟩ : Directory δ).insertAll rest = .ok ⟨front ++ rest⟩ := by
  induction rest generalizing front with
  | nil => rw [List.append_nil, insertAll]
  | cons entry rest ih =>
      have ascending := ordered.ascending
      have names := ordered.names_nodup
      rw [Directory.names, List.map_append, List.map_cons] at names
      rw [List.pairwise_append] at ascending
      have below : ∀ other ∈ front,
          (Catalogued.id other).number < (Catalogued.id entry).number :=
        fun other known => ascending.2.2 other known entry List.mem_cons_self
      have nameFree : (⟨front⟩ : Directory δ).find? (Catalogued.name entry) = none := by
        rw [find?_eq_none_iff]
        intro other known same
        exact (List.disjoint_of_nodup_append names) (List.mem_map_of_mem known)
          (same ▸ List.mem_cons_self)
      have idFree : (⟨front⟩ : Directory δ).byId? (Catalogued.id entry) = none := by
        rw [byId?_eq_none_iff]
        intro other known same
        exact Nat.ne_of_lt (below other known) (congrArg SchemaId.number same)
      have counted : Catalogued.id entry ≠ .last := ordered.bounded entry (by simp)
      have inserted : (⟨front⟩ : Directory δ).insert entry = .ok ⟨front ++ [entry]⟩ := by
        simp [Directory.insert, nameFree, idFree, counted, insertOrdered_eq_append below]
      rw [List.append_cons] at ordered ⊢
      simp only [insertAll, inserted]
      exact ih (front ++ [entry]) ordered

/-- A directory is what entering its own descriptors gives. -/
theorem Ordered.insertAll_entries (ordered : directory.Ordered) :
    (Directory.empty : Directory δ).insertAll directory.entries = .ok directory :=
  insertAll_eq [] directory.entries ordered

/-- The next id is not above any number that is above all ids. -/
theorem nextId_le {limit : Nat}
    (above : ∀ entry ∈ directory.entries, (Catalogued.id entry).number < limit) :
    directory.nextId.number ≤ limit := by
  unfold nextId
  cases found : directory.entries.getLast? with
  | none => exact Nat.zero_le _
  | some greatest =>
      have below := above greatest (List.mem_of_getLast? found)
      change ((Catalogued.id greatest).word + 1).toNat ≤ limit
      rw [UInt64.toNat_add]
      exact Nat.le_trans (Nat.mod_le _ _) (Nat.succ_le_of_lt below)

/-- Entering a descriptor raises the next id above the descriptor's own. -/
theorem Ordered.nextId_insert (ordered : directory.Ordered) {entry : δ} {grown : Directory δ}
    (inserted : directory.insert entry = .ok grown) :
    grown.nextId.number = max directory.nextId.number ((Catalogued.id entry).number + 1) := by
  have grownOrdered := ordered.insert inserted
  obtain ⟨-, -, -, rfl⟩ := insert_eq_ok inserted
  apply Nat.le_antisymm
  · apply nextId_le
    intro other known
    rcases mem_insertOrdered.1 known with rfl | before
    · exact Nat.lt_of_lt_of_le (Nat.lt_succ_self _) (Nat.le_max_right _ _)
    · exact Nat.lt_of_lt_of_le (ordered.lt_nextId before) (Nat.le_max_left _ _)
  · refine Nat.max_le.2 ⟨?_, ?_⟩
    · apply nextId_le
      intro other before
      exact grownOrdered.lt_nextId (mem_insertOrdered.2 (.inr before))
    · exact grownOrdered.lt_nextId (mem_insertOrdered.2 (.inl rfl))

theorem Counts.insertAll {entries : List δ} {grown : Directory δ} {next : Nat}
    (counts : directory.Counts next) (inserted : directory.insertAll entries = .ok grown) :
    ∃ last, grown.Counts last :=
  insertAll_keeps (fun directory => ∃ last, directory.Counts last)
    (fun ⟨_, counts⟩ inserted => ⟨_, counts.insert inserted⟩) ⟨next, counts⟩ inserted

/-- A counted directory is ordered, and the counter is at its next id. -/
theorem Counts.nextId {next : Nat} (counts : directory.Counts next) :
    directory.Ordered ∧ next = directory.nextId.number := by
  induction counts with
  | empty => exact ⟨.empty, rfl⟩
  | insert _ inserted ih =>
      obtain ⟨ordered, counted⟩ := ih
      refine ⟨ordered.insert inserted, ?_⟩
      rw [ordered.nextId_insert inserted, counted]

/-- In whichever way an ordered directory came about, the counter is at its next id. -/
theorem Ordered.counts_iff (ordered : directory.Ordered) {next : Nat} :
    directory.Counts next ↔ next = directory.nextId.number := by
  constructor
  · exact fun counts => counts.nextId.2
  · rintro rfl
    obtain ⟨last, counts⟩ := Counts.empty.insertAll ordered.insertAll_entries
    rwa [← counts.nextId.2]

end Directory

namespace Catalog

def HasStandardLabel (catalog : Catalog) : Prop :=
  catalog.vertexLabels.contains standardVertexLabel = true

namespace HasStandardLabel

variable {catalog grown : Catalog}

theorem fresh : Catalog.fresh.HasStandardLabel := by
  unfold HasStandardLabel
  decide

theorem grow (grows : catalog.Grows grown) (sound : catalog.Sound) (grownSound : grown.Sound)
    (has : catalog.HasStandardLabel) : grown.HasStandardLabel := by
  obtain ⟨label, found⟩ := Option.isSome_iff_exists.1 has
  obtain ⟨known, named⟩ := sound.vertexLabels.find?_eq_some_iff.1 found
  have still := grownSound.vertexLabels.find?_eq_some_iff.2 ⟨grows.vertexLabels.mem known, named⟩
  exact Option.isSome_iff_exists.2 ⟨label, still⟩

/-- Restoring adds the standard label if the snapshot lacks it. -/
theorem restore {snapshot : Snapshot} (restored : Catalog.restore snapshot = .ok catalog) :
    catalog.HasStandardLabel := by
  have sound := Sound.restore restored
  obtain ⟨propertyKeys, edgeLabels, vertexLabels, -, -, -, completed⟩ := restore_eq_ok restored
  rcases withStandardLabel_cases completed with ⟨present, rfl⟩ | ⟨label, labels, created, rfl⟩
  · exact present
  · obtain ⟨after, inserted, made⟩ := map_eq_ok_iff.1 created
    cases made
    obtain ⟨-, -, -, rfl⟩ := Directory.insert_eq_ok inserted
    exact Option.isSome_iff_exists.2 ⟨_, sound.vertexLabels.find?_eq_some_iff.2
      ⟨Directory.mem_insertOrdered.2 (.inl rfl), rfl⟩⟩

end HasStandardLabel

/-- A catalog with the standard label is what restoring its snapshot gives. -/
theorem Sound.restore_snapshot {catalog : Catalog} (sound : catalog.Sound)
    (standard : catalog.HasStandardLabel) : Catalog.restore catalog.snapshot = .ok catalog := by
  simp only [Catalog.restore, snapshot, sound.propertyKeys.insertAll_entries,
    sound.edgeLabels.insertAll_entries, sound.vertexLabels.insertAll_entries]
  exact if_pos standard

end Catalog

end PropertyGraph
