import Mathlib.Data.List.Forall2
import Mathlib.Data.List.Nodup
import Mathlib.Data.String.Basic
import PropertyGraph.Value

/-!
# Entries of a map

A map is known by what it holds under each key.  Entries in ascending order are
determined by it, so the map of some entries does not depend on the order in
which they are put in, as long as the last one under each key stays the same.
-/

namespace PropertyGraph.Value

section

variable {α β : Type} {key : String}

/-- The keys of the entries ascend, so that none is given twice. -/
def Ascending (entries : List (String × α)) : Prop :=
  entries.Pairwise fun first later => first.1 < later.1

instance (entries : List (String × α)) : Decidable (Ascending entries) :=
  inferInstanceAs (Decidable (entries.Pairwise fun first later => first.1 < later.1))

theorem Ascending.nodup {entries : List (String × α)} (ascending : Ascending entries) :
    (entries.map Prod.fst).Nodup := by
  rw [List.Nodup, List.pairwise_map]
  exact List.Pairwise.imp (fun below => below.ne) ascending

theorem lookup_cons_ite (name : String) (held : α) (rest : List (String × α)) :
    ((name, held) :: rest).lookup key = if key = name then some held else rest.lookup key := by
  rw [List.lookup_cons]
  by_cases same : key = name
  · rw [if_pos same, beq_iff_eq.2 same]
  · rw [if_neg same, beq_false_of_ne same]

/-- Nothing is found under a key before the first one. -/
theorem lookup_eq_none_of_below {entries : List (String × α)}
    (below : ∀ entry ∈ entries, key < entry.1) : entries.lookup key = none := by
  rw [List.lookup_eq_none_iff]
  intro entry known
  exact bne_iff_ne.2 (below entry known).ne

/-- If no key is given twice, what is found under a key is what stands there. -/
theorem lookup_eq_some_iff_mem {entries : List (String × α)} {held : α}
    (once : (entries.map Prod.fst).Nodup) :
    entries.lookup key = some held ↔ (key, held) ∈ entries := by
  rw [List.lookup_eq_some_iff]
  constructor
  · rintro ⟨front, back, rfl, -⟩
    exact List.mem_append_right _ List.mem_cons_self
  · intro known
    obtain ⟨front, back, rfl⟩ := List.append_of_mem known
    refine ⟨front, back, rfl, ?_⟩
    rw [List.map_append, List.nodup_append] at once
    intro entry earlier
    have apart := once.2.2 entry.1 (List.mem_map_of_mem earlier) key List.mem_cons_self
    exact bne_iff_ne.2 (Ne.symm apart)

/-- If no key is given twice, the order of the entries does not matter to what is found. -/
theorem lookup_perm {entries others : List (String × α)}
    (once : (entries.map Prod.fst).Nodup) (same : entries.Perm others) :
    entries.lookup key = others.lookup key := by
  have onceToo : (others.map Prod.fst).Nodup := (same.map Prod.fst).nodup_iff.1 once
  apply Option.ext
  intro held
  rw [lookup_eq_some_iff_mem once, lookup_eq_some_iff_mem onceToo, same.mem_iff]

/-- Before the first one of ascending keys nothing is found. -/
theorem Ascending.lookup_eq_none {entry : String × α} {rest : List (String × α)}
    (ascending : Ascending (entry :: rest)) (before : key < entry.1) :
    (entry :: rest).lookup key = none := by
  have behind := (List.pairwise_cons.1 ascending).1
  exact lookup_eq_none_of_below (List.forall_mem_cons.2
    ⟨before, fun later known => before.trans (behind later known)⟩)

/--
Entries that are related key by key begin with the same key: one that came first
on one side would not be found on the other.
-/
theorem Ascending.head_eq {R : α → β → Prop} {left : String × α} {right : String × β}
    {lefts : List (String × α)} {rights : List (String × β)} (ascending : Ascending (left :: lefts))
    (ascends : Ascending (right :: rights))
    (agree : ∀ key, Option.Rel R ((left :: lefts).lookup key) ((right :: rights).lookup key)) :
    left.1 = right.1 := by
  rcases lt_trichotomy left.1 right.1 with before | same | after
  · have missing := agree left.1
    rw [List.lookup_cons_self, ascends.lookup_eq_none before] at missing
    cases missing
  · exact same
  · have missing := agree right.1
    rw [List.lookup_cons_self, ascending.lookup_eq_none after] at missing
    cases missing

/-- Entries that are related one by one are related key by key. -/
theorem rel_lookup {R : α → β → Prop} {lefts : List (String × α)} {rights : List (String × β)}
    (related : List.Forall₂ (fun left right => left.1 = right.1 ∧ R left.2 right.2) lefts rights)
    (key : String) : Option.Rel R (lefts.lookup key) (rights.lookup key) := by
  induction related with
  | nil => exact .none
  | @cons left right lefts rights first _ ih =>
      obtain ⟨name, held⟩ := left
      obtain ⟨other, found⟩ := right
      obtain ⟨rfl, agree⟩ : name = other ∧ R held found := first
      rw [lookup_cons_ite, lookup_cons_ite]
      split
      next => exact .some agree
      next => exact ih

/-- Entries in ascending order are related one by one exactly if they are related key by key. -/
theorem forall₂_iff_lookup {R : α → β → Prop} {lefts : List (String × α)}
    {rights : List (String × β)} (ascending : Ascending lefts) (ascends : Ascending rights) :
    List.Forall₂ (fun left right => left.1 = right.1 ∧ R left.2 right.2) lefts rights ↔
      ∀ key, Option.Rel R (lefts.lookup key) (rights.lookup key) := by
  refine ⟨rel_lookup, fun agree => ?_⟩
  induction lefts generalizing rights with
  | nil =>
      cases rights with
      | nil => exact .nil
      | cons right rights =>
          have missing := agree right.1
          rw [List.lookup_cons_self] at missing
          cases missing
  | cons left lefts ih =>
      cases rights with
      | nil =>
          have missing := agree left.1
          rw [List.lookup_cons_self] at missing
          cases missing
      | cons right rights =>
          have first := ascending.head_eq ascends agree
          obtain ⟨name, held⟩ := left
          obtain ⟨other, found⟩ := right
          obtain rfl : name = other := first
          obtain ⟨behind, ascending⟩ := List.pairwise_cons.1 ascending
          obtain ⟨behindToo, ascends⟩ := List.pairwise_cons.1 ascends
          have heads := agree name
          rw [List.lookup_cons_self, List.lookup_cons_self] at heads
          refine .cons ⟨rfl, ?_⟩ (ih ascending ascends ?_)
          · cases heads with
            | some related => exact related
          · intro key
            by_cases same : key = name
            · subst same
              rw [lookup_eq_none_of_below behind, lookup_eq_none_of_below behindToo]
              exact .none
            · have tails := agree key
              rw [lookup_cons_ite, lookup_cons_ite, if_neg same, if_neg same] at tails
              exact tails

/-- Entries in ascending order are determined by what is found under each key. -/
theorem Ascending.eq_of_lookup {entries others : List (String × α)}
    (ascending : Ascending entries) (ascends : Ascending others)
    (same : ∀ key, entries.lookup key = others.lookup key) : entries = others := by
  have related : ∀ key, Option.Rel Eq (entries.lookup key) (others.lookup key) := by
    intro key
    rw [same key]
    cases others.lookup key with
    | none => exact .none
    | some held => exact .some rfl
  have pairs := (forall₂_iff_lookup ascending ascends).2 related
  rw [← List.forall₂_eq_eq_eq]
  exact pairs.imp fun _ _ both => Prod.ext both.1 both.2

end

section

variable (key : String) (value : Value) (entries : List (String × Value))

theorem lookup_insertEntry (other : String) :
    (insertEntry key value entries).lookup other =
      if other = key then some value else entries.lookup other := by
  induction entries with
  | nil => exact lookup_cons_ite key value []
  | cons entry rest ih =>
      obtain ⟨name, held⟩ := entry
      rw [insertEntry]
      split
      next replaced =>
        subst replaced
        rw [lookup_cons_ite, lookup_cons_ite]
        split <;> rfl
      next apart =>
        split
        next => exact lookup_cons_ite key value _
        next =>
          rw [lookup_cons_ite, lookup_cons_ite, ih]
          by_cases same : other = name
          · have different : ¬other = key := fun again => apart (again.symm.trans same)
            rw [if_pos same, if_neg different, if_pos same]
          · rw [if_neg same, if_neg same]

theorem mem_insertEntry {entry : String × Value} (known : entry ∈ insertEntry key value entries) :
    entry = (key, value) ∨ entry ∈ entries := by
  induction entries with
  | nil => exact .inl (List.mem_singleton.1 known)
  | cons first rest ih =>
      obtain ⟨name, held⟩ := first
      rw [insertEntry] at known
      split at known
      next =>
        exact (List.mem_cons.1 known).imp_right (List.mem_cons_of_mem _)
      next =>
        split at known
        next => exact List.mem_cons.1 known
        next =>
          rcases List.mem_cons.1 known with same | later
          · exact .inr (same ▸ List.mem_cons_self)
          · exact (ih later).imp_right (List.mem_cons_of_mem _)

variable {entries} in
theorem Ascending.insertEntry (ascending : Ascending entries) :
    Ascending (insertEntry key value entries) := by
  induction entries with
  | nil => exact List.pairwise_singleton _ _
  | cons first rest ih =>
      obtain ⟨name, held⟩ := first
      obtain ⟨behind, ascends⟩ := List.pairwise_cons.1 ascending
      rw [Value.insertEntry]
      split
      next replaced =>
        subst replaced
        exact List.pairwise_cons.2 ⟨behind, ascends⟩
      next apart =>
        split
        next before =>
          exact List.pairwise_cons.2 ⟨List.forall_mem_cons.2
            ⟨before, fun entry known => String.lt_trans before (behind entry known)⟩, ascending⟩
        next notBefore =>
          have after : name < key := lt_of_le_of_ne (not_lt.1 notBefore) (Ne.symm apart)
          refine List.pairwise_cons.2 ⟨?_, ih ascends⟩
          intro entry known
          rcases mem_insertEntry key value rest known with rfl | held
          · exact after
          · exact behind entry held

end

/-- The entries of a map that the given ones are put into one after the other. -/
def arrange (entries : List (String × Value)) : List (String × Value) :=
  entries.foldl (fun ordered (key, value) => insertEntry key value ordered) []

theorem ofEntries_eq (entries : List (String × Value)) :
    ofEntries entries = map (arrange entries) := rfl

theorem ascending_arrange (entries : List (String × Value)) : Ascending (arrange entries) := by
  suffices onward : ∀ ordered, Ascending ordered → Ascending
      (entries.foldl (fun ordered (key, value) => insertEntry key value ordered) ordered) from
    onward [] .nil
  induction entries with
  | nil => exact fun _ => id
  | cons entry rest ih => exact fun _ ascending => ih _ (ascending.insertEntry _ _)

/-- Under each key the last entry is found. -/
theorem lookup_arrange (entries : List (String × Value)) (key : String) :
    (arrange entries).lookup key = entries.reverse.lookup key := by
  suffices onward : ∀ ordered : List (String × Value),
      (entries.foldl (fun ordered (key, value) => insertEntry key value ordered) ordered).lookup
        key = (entries.reverse.lookup key).or (ordered.lookup key) by
    rw [arrange, onward, List.lookup_nil, Option.or_none]
  induction entries with
  | nil => exact fun _ => rfl
  | cons entry rest ih =>
      intro ordered
      rw [List.foldl_cons, ih, lookup_insertEntry, List.reverse_cons, List.lookup_append,
        Option.or_assoc, lookup_cons_ite]
      split <;> rfl

/-- The map of some entries depends on the last one under each key only. -/
theorem arrange_congr {entries others : List (String × Value)}
    (same : ∀ key, entries.reverse.lookup key = others.reverse.lookup key) :
    arrange entries = arrange others := by
  apply (ascending_arrange entries).eq_of_lookup (ascending_arrange others)
  intro key
  rw [lookup_arrange, lookup_arrange, same]

/-- If no key is given twice, the order in which the entries are put in does not matter. -/
theorem arrange_perm {entries others : List (String × Value)}
    (once : (entries.map Prod.fst).Nodup) (same : entries.Perm others) :
    arrange entries = arrange others := by
  have reversed : entries.reverse.Perm others.reverse :=
    (List.reverse_perm entries).trans (same.trans (List.reverse_perm others).symm)
  have onceToo : (entries.reverse.map Prod.fst).Nodup :=
    ((List.reverse_perm entries).map Prod.fst).nodup_iff.2 once
  exact arrange_congr fun _ => lookup_perm onceToo reversed

/-- Ascending entries are the map of any listing of them. -/
theorem Ascending.arrange_eq {entries listed : List (String × Value)}
    (ascending : Ascending entries) (same : entries.Perm listed) : arrange listed = entries := by
  rw [← arrange_perm ascending.nodup same]
  apply (ascending_arrange entries).eq_of_lookup ascending
  intro key
  rw [lookup_arrange]
  exact (lookup_perm ascending.nodup (List.reverse_perm entries).symm).symm

end PropertyGraph.Value
