import Mathlib.Data.List.Nodup
import PropertyGraph.Catalog.Directory

/-!
# Ordered directories

In every directory that can arise the ids ascend, the names differ, and the
last id is not in use.  Such a directory finds each of its descriptors under
its id and under its name.  A descriptor created in it gets an id above all
others, so a directory only ever grows at its end.
-/

namespace PropertyGraph

/-- A changed result is a success exactly when the result itself is one. -/
theorem map_eq_ok_iff {ε α β : Type} {result : Except ε α} {change : α → β} {answer : β} :
    result.map change = .ok answer ↔ ∃ value, result = .ok value ∧ change value = answer := by
  cases result with
  | error failure => simp [Except.map]
  | ok value => simp [Except.map]

/-- A changed result is a failure exactly when the result itself is one. -/
theorem map_eq_error_iff {ε α β : Type} {result : Except ε α} {change : α → β} {failure : ε} :
    result.map change = .error failure ↔ result = .error failure := by
  cases result with
  | error other => simp [Except.map]
  | ok value => simp [Except.map]

theorem map_map {ε α β γ : Type} (result : Except ε α) (first : α → β) (second : β → γ) :
    (result.map first).map second = result.map fun value => second (first value) := by
  cases result <;> rfl

namespace SchemaId

/-- An id is not the last one exactly if its number is less. -/
theorem ne_last_iff {id : SchemaId} : id ≠ .last ↔ id.number < UInt64.size - 1 := by
  have small := id.number_lt
  have same : id = .last ↔ id.number = UInt64.size - 1 :=
    ⟨fun last => by rw [last]; rfl, fun number => ext_number number⟩
  rw [ne_eq, same]
  omega

/-- Every id but the last one has a successor. -/
theorem toNat_succ {id : SchemaId} (counted : id ≠ .last) :
    (id.word + 1).toNat = id.number + 1 := by
  have small := ne_last_iff.1 counted
  rw [UInt64.toNat_add]
  exact Nat.mod_eq_of_lt (Nat.add_lt_of_lt_sub small)

end SchemaId

namespace Directory

variable {δ : Type}

/-- The second directory has the descriptors of the first and perhaps more after them. -/
def Grows (directory grown : Directory δ) : Prop := directory.entries <+: grown.entries

namespace Grows

theorem refl (directory : Directory δ) : directory.Grows directory := List.prefix_refl _

theorem trans {first second third : Directory δ} (earlier : first.Grows second)
    (later : second.Grows third) : first.Grows third :=
  List.IsPrefix.trans earlier later

theorem mem {directory grown : Directory δ} (grows : directory.Grows grown) {entry : δ}
    (known : entry ∈ directory.entries) : entry ∈ grown.entries :=
  List.IsPrefix.subset grows known

end Grows

variable [Catalogued δ]

/-- Ascending ids, different names, and a successor for every id. -/
structure Ordered (directory : Directory δ) : Prop where
  ascending : directory.entries.Pairwise fun first second =>
    (Catalogued.id first).number < (Catalogued.id second).number
  names_nodup : directory.names.Nodup
  bounded : ∀ entry ∈ directory.entries, Catalogued.id entry ≠ .last

theorem find?_eq_none_iff {directory : Directory δ} {name : String} :
    directory.find? name = none ↔ ∀ entry ∈ directory.entries, Catalogued.name entry ≠ name := by
  simp [find?]

theorem byId?_eq_none_iff {directory : Directory δ} {id : SchemaId} :
    directory.byId? id = none ↔ ∀ entry ∈ directory.entries, Catalogued.id entry ≠ id := by
  simp [byId?]

namespace Ordered

variable {directory : Directory δ}

theorem empty : (Directory.empty : Directory δ).Ordered :=
  ⟨List.Pairwise.nil, List.nodup_nil, by simp [Directory.empty]⟩

/-- Descriptors of one name are one descriptor. -/
theorem eq_of_name (ordered : directory.Ordered) {first second : δ}
    (firstKnown : first ∈ directory.entries) (secondKnown : second ∈ directory.entries)
    (same : Catalogued.name first = Catalogued.name second) : first = second :=
  List.inj_on_of_nodup_map ordered.names_nodup firstKnown secondKnown same

/-- Descriptors of one id are one descriptor. -/
theorem eq_of_id (ordered : directory.Ordered) {first second : δ}
    (firstKnown : first ∈ directory.entries) (secondKnown : second ∈ directory.entries)
    (same : Catalogued.id first = Catalogued.id second) : first = second := by
  have ids : (directory.entries.map fun entry => (Catalogued.id entry).number).Nodup :=
    List.pairwise_map.2 (ordered.ascending.imp Nat.ne_of_lt)
  exact List.inj_on_of_nodup_map ids firstKnown secondKnown (congrArg SchemaId.number same)

theorem find?_eq_some_iff (ordered : directory.Ordered) {name : String} {entry : δ} :
    directory.find? name = some entry ↔
      entry ∈ directory.entries ∧ Catalogued.name entry = name := by
  constructor
  · intro found
    exact ⟨List.mem_of_find?_eq_some found, by simpa using List.find?_some found⟩
  · rintro ⟨known, rfl⟩
    cases found : directory.find? (Catalogued.name entry) with
    | none => exact absurd rfl (find?_eq_none_iff.1 found entry known)
    | some other =>
        have same : Catalogued.name other = Catalogued.name entry := by
          simpa using List.find?_some found
        rw [ordered.eq_of_name (List.mem_of_find?_eq_some found) known same]

theorem byId?_eq_some_iff (ordered : directory.Ordered) {id : SchemaId} {entry : δ} :
    directory.byId? id = some entry ↔ entry ∈ directory.entries ∧ Catalogued.id entry = id := by
  constructor
  · intro found
    exact ⟨List.mem_of_find?_eq_some found, by simpa using List.find?_some found⟩
  · rintro ⟨known, rfl⟩
    cases found : directory.byId? (Catalogued.id entry) with
    | none => exact absurd rfl (byId?_eq_none_iff.1 found entry known)
    | some other =>
        have same : Catalogued.id other = Catalogued.id entry := by
          simpa using List.find?_some found
        rw [ordered.eq_of_id (List.mem_of_find?_eq_some found) known same]

theorem matching?_eq_some_iff (ordered : directory.Ordered) {id : SchemaId} {name : String}
    {entry : δ} :
    directory.matching? id name = some entry ↔
      entry ∈ directory.entries ∧ Catalogued.id entry = id ∧ Catalogued.name entry = name := by
  simp only [matching?, Option.filter_eq_some_iff, ordered.byId?_eq_some_iff, decide_eq_true_eq,
    and_assoc]

theorem matching?_eq_none_iff (ordered : directory.Ordered) {id : SchemaId} {name : String} :
    directory.matching? id name = none ↔
      ∀ entry ∈ directory.entries, Catalogued.id entry = id → Catalogued.name entry ≠ name := by
  simp only [Option.eq_none_iff_forall_ne_some, ne_eq, ordered.matching?_eq_some_iff, not_and]

end Ordered

theorem insertOrdered_perm (entry : δ) (entries : List δ) :
    (insertOrdered entry entries).Perm (entry :: entries) := by
  induction entries with
  | nil => exact List.Perm.refl _
  | cons first rest ih =>
      unfold insertOrdered
      split
      · exact List.Perm.refl _
      · exact (ih.cons first).trans (List.Perm.swap entry first rest)

theorem mem_insertOrdered {entry other : δ} {entries : List δ} :
    other ∈ insertOrdered entry entries ↔ other = entry ∨ other ∈ entries := by
  rw [(insertOrdered_perm entry entries).mem_iff, List.mem_cons]

/-- A descriptor with an id above all others goes to the end. -/
theorem insertOrdered_eq_append {entry : δ} {entries : List δ}
    (above : ∀ other ∈ entries, (Catalogued.id other).number < (Catalogued.id entry).number) :
    insertOrdered entry entries = entries ++ [entry] := by
  induction entries with
  | nil => rfl
  | cons first rest ih =>
      have below : ¬ (Catalogued.id entry).word < (Catalogued.id first).word := by
        rw [UInt64.lt_iff_toNat_lt]
        exact Nat.lt_asymm (above first List.mem_cons_self)
      rw [insertOrdered, if_neg below,
        ih fun other known => above other (List.mem_cons_of_mem _ known)]
      rfl

/-- Ordered insertion of an unused id keeps the ids ascending. -/
theorem insertOrdered_ascending {entry : δ} {entries : List δ}
    (ascending : entries.Pairwise fun first second =>
      (Catalogued.id first).number < (Catalogued.id second).number)
    (fresh : ∀ other ∈ entries, Catalogued.id other ≠ Catalogued.id entry) :
    (insertOrdered entry entries).Pairwise fun first second =>
      (Catalogued.id first).number < (Catalogued.id second).number := by
  induction entries with
  | nil => simp [insertOrdered]
  | cons first rest ih =>
      rw [List.pairwise_cons] at ascending
      obtain ⟨least, restAscending⟩ := ascending
      unfold insertOrdered
      split
      next below =>
        rw [UInt64.lt_iff_toNat_lt] at below
        refine List.pairwise_cons.2 ⟨?_, List.pairwise_cons.2 ⟨least, restAscending⟩⟩
        intro other known
        rcases List.mem_cons.1 known with rfl | inRest
        · exact below
        · exact Nat.lt_trans below (least other inRest)
      next above =>
        rw [UInt64.lt_iff_toNat_lt] at above
        have apart : (Catalogued.id first).number ≠ (Catalogued.id entry).number :=
          fun same => fresh first List.mem_cons_self (SchemaId.ext_number same)
        refine List.pairwise_cons.2 ⟨?_, ih restAscending fun other known =>
          fresh other (List.mem_cons_of_mem _ known)⟩
        intro other known
        rcases mem_insertOrdered.1 known with rfl | inRest
        · exact Nat.lt_of_le_of_ne (Nat.le_of_not_lt above) apart
        · exact least other inRest

/-- What a successful insertion says about the descriptor and the directory after it. -/
theorem insert_eq_ok {directory grown : Directory δ} {entry : δ}
    (inserted : directory.insert entry = .ok grown) :
    directory.find? (Catalogued.name entry) = none ∧
      directory.byId? (Catalogued.id entry) = none ∧ Catalogued.id entry ≠ .last ∧
      grown = ⟨insertOrdered entry directory.entries⟩ := by
  unfold insert at inserted
  split at inserted
  next => cases inserted
  next free =>
    split at inserted
    next => cases inserted
    next counted =>
      rw [not_or, Bool.not_eq_true, Bool.not_eq_true, Option.isSome_eq_false_iff,
        Option.isSome_eq_false_iff, Option.isNone_iff_eq_none, Option.isNone_iff_eq_none] at free
      exact ⟨free.1, free.2, counted, (Except.ok.inj inserted).symm⟩

theorem Ordered.insert {directory grown : Directory δ} {entry : δ} (ordered : directory.Ordered)
    (inserted : directory.insert entry = .ok grown) : grown.Ordered := by
  obtain ⟨nameFree, idFree, counted, rfl⟩ := insert_eq_ok inserted
  have ascending := insertOrdered_ascending ordered.ascending (byId?_eq_none_iff.1 idFree)
  refine ⟨ascending, ?_, ?_⟩
  · have names := (insertOrdered_perm entry directory.entries).map Catalogued.name
    refine names.nodup_iff.2 (List.nodup_cons.2 ⟨?_, ordered.names_nodup⟩)
    intro taken
    obtain ⟨other, known, same⟩ := List.mem_map.1 taken
    exact find?_eq_none_iff.1 nameFree other known same
  · intro other known
    rcases mem_insertOrdered.1 known with rfl | before
    · exact counted
    · exact ordered.bounded other before

/-- What every insertion keeps, entering a list of descriptors keeps. -/
theorem insertAll_keeps (holds : Directory δ → Prop)
    (kept : ∀ {directory grown : Directory δ} {entry : δ}, holds directory →
      directory.insert entry = .ok grown → holds grown)
    {directory grown : Directory δ} {entries : List δ} (held : holds directory)
    (inserted : directory.insertAll entries = .ok grown) : holds grown := by
  induction entries generalizing directory with
  | nil =>
      cases inserted
      exact held
  | cons entry rest ih =>
      unfold Directory.insertAll at inserted
      split at inserted
      next first insertedFirst => exact ih (kept held insertedFirst) inserted
      next => cases inserted

theorem Ordered.insertAll {directory grown : Directory δ} {entries : List δ}
    (ordered : directory.Ordered) (inserted : directory.insertAll entries = .ok grown) :
    grown.Ordered :=
  insertAll_keeps Ordered Ordered.insert ordered inserted

/-- The next id is above all ids in use. -/
theorem Ordered.lt_nextId {directory : Directory δ} (ordered : directory.Ordered) {entry : δ}
    (known : entry ∈ directory.entries) :
    (Catalogued.id entry).number < directory.nextId.number := by
  unfold nextId
  cases found : directory.entries.getLast? with
  | none =>
      rw [List.getLast?_eq_none_iff] at found
      rw [found] at known
      cases known
  | some greatest =>
      obtain ⟨before, split⟩ := List.getLast?_eq_some_iff.1 found
      have counted : (Catalogued.id greatest) ≠ .last :=
        ordered.bounded greatest (by rw [split]; simp)
      have most : (Catalogued.id entry).number ≤ (Catalogued.id greatest).number := by
        have ascending := ordered.ascending
        rw [split, List.pairwise_append] at ascending
        rw [split] at known
        rcases List.mem_append.1 known with inFront | isLast
        · exact Nat.le_of_lt (ascending.2.2 entry inFront greatest (List.mem_singleton.2 rfl))
        · exact Nat.le_of_eq (by rw [List.mem_singleton.1 isLast])
      change _ < ((Catalogued.id greatest).word + 1).toNat
      rw [SchemaId.toNat_succ counted]
      exact Nat.lt_succ_of_le most

/-- The directory after it holds the descriptor, and is ordered and grown. -/
structure Yields (directory : Directory δ) (entry : δ) (grown : Directory δ) : Prop where
  ordered : grown.Ordered
  grows : directory.Grows grown
  mem : entry ∈ grown.entries

/-- Creation puts a descriptor with the next id at the end. -/
theorem create_yields {directory grown : Directory δ} {make : SchemaId → δ} {entry : δ}
    (ordered : directory.Ordered) (numbered : ∀ id, Catalogued.id (make id) = id)
    (created : directory.create make = .ok (entry, grown)) : directory.Yields entry grown := by
  obtain ⟨after, inserted, same⟩ := map_eq_ok_iff.1 created
  cases same
  have afterOrdered := ordered.insert inserted
  obtain ⟨-, -, -, rfl⟩ := insert_eq_ok inserted
  have atEnd : insertOrdered (make directory.nextId) directory.entries =
      directory.entries ++ [make directory.nextId] := by
    apply insertOrdered_eq_append
    intro other known
    rw [numbered]
    exact ordered.lt_nextId known
  refine ⟨afterOrdered, ?_, mem_insertOrdered.2 (.inl rfl)⟩
  unfold Grows
  rw [atEnd]
  exact List.prefix_append _ _

theorem intern_yields {directory grown : Directory δ} {name : String} {wanted : Bool}
    {make : SchemaId → δ} {entry : δ} (ordered : directory.Ordered)
    (numbered : ∀ id, Catalogued.id (make id) = id)
    (found : directory.intern name wanted make = .ok (entry, grown)) :
    directory.Yields entry grown := by
  unfold intern at found
  split at found
  next held known =>
    cases found
    exact ⟨ordered, .refl directory, List.mem_of_find?_eq_some known⟩
  next =>
    split at found
    next => cases found
    next => exact create_yields ordered numbered found

theorem define_yields {directory grown : Directory δ} {name : String} {make : SchemaId → δ}
    {entry : δ} (ordered : directory.Ordered) (numbered : ∀ id, Catalogued.id (make id) = id)
    (defined : directory.define name make = .ok (entry, grown)) :
    directory.Yields entry grown := by
  unfold define at defined
  split at defined
  next => cases defined
  next =>
    split at defined
    next => cases defined
    next => exact create_yields ordered numbered defined

end Directory

end PropertyGraph
