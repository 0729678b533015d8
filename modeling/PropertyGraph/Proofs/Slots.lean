import Mathlib.Data.List.Basic
import PropertyGraph.Slots

/-!
# The live entries of a slot table

A table is read in two ways: by number, and as the list of its live entries.
Every change of a table is described in both.  Where the entries carry their
own numbers, the list ascends, erasing is filtering, and replacing one entry is
mapping over all of them.
-/

namespace PropertyGraph.Slots

variable {α : Type}

@[simp] theorem get?_fresh (number : Nat) : (fresh : Slots α).get? number = none := by
  cases number <;> simp [fresh, get?]

@[simp] theorem live_fresh : (fresh : Slots α).live = [] := rfl

/-- A number with an entry was handed out. -/
theorem lt_next {slots : Slots α} {number : Nat} {entry : α}
    (found : slots.get? number = some entry) : number < slots.next := by
  rcases Nat.lt_or_ge number slots.next with below | above
  · exact below
  · have missing : slots.cells[number]? = none := List.getElem?_eq_none above
    simp [get?, missing] at found

/-- Nothing is found under the next number. -/
theorem get?_next (slots : Slots α) : slots.get? slots.next = none := by
  simp [get?, next]

/-- The live entries are those found under the numbers handed out, in their order. -/
theorem live_eq_range (slots : Slots α) :
    slots.live = (List.range slots.next).filterMap slots.get? := by
  have cells : slots.cells = (List.range slots.next).map slots.get? := by
    apply List.ext_getElem
    · simp [next]
    · intro number below _
      simp [get?, below]
  calc slots.live = slots.cells.filterMap id := rfl
    _ = ((List.range slots.next).map slots.get?).filterMap id := congrArg _ cells
    _ = (List.range slots.next).filterMap slots.get? := by
      rw [List.filterMap_map]
      rfl

theorem mem_live {slots : Slots α} {entry : α} :
    entry ∈ slots.live ↔ ∃ number, slots.get? number = some entry := by
  rw [live_eq_range, List.mem_filterMap]
  constructor
  · rintro ⟨number, -, found⟩
    exact ⟨number, found⟩
  · rintro ⟨number, found⟩
    exact ⟨number, List.mem_range.2 (lt_next found), found⟩

@[simp] theorem live_push (slots : Slots α) (entry : α) :
    (slots.push entry).live = slots.live ++ [entry] := by
  simp [live, push]

@[simp] theorem get?_map (slots : Slots α) (change : α → α) (number : Nat) :
    (slots.map change).get? number = (slots.get? number).map change := by
  simp only [map, get?, List.getElem?_map]
  cases slots.cells[number]? with
  | none => rfl
  | some cell => rfl

@[simp] theorem live_map (slots : Slots α) (change : α → α) :
    (slots.map change).live = slots.live.map change := by
  simp only [live, map, List.filterMap_map, List.map_filterMap]
  rfl

/-- Filling a table up with empty slots keeps every number. -/
theorem get?_resize (slots : Slots α) {next : Nat} (grows : slots.next ≤ next) (number : Nat) :
    (slots.resize next).get? number = slots.get? number := by
  have whole : slots.cells.take next = slots.cells := List.take_of_length_le grows
  simp only [resize, get?, whole]
  rcases Nat.lt_or_ge number slots.cells.length with below | above
  · rw [List.getElem?_append_left below]
  · rw [List.getElem?_append_right above, List.getElem?_replicate, List.getElem?_eq_none above]
    split <;> rfl

/-- Filling a table up with empty slots keeps the live entries. -/
theorem live_resize (slots : Slots α) {next : Nat} (grows : slots.next ≤ next) :
    (slots.resize next).live = slots.live := by
  have whole : slots.cells.take next = slots.cells := List.take_of_length_le grows
  have empty :
      (List.replicate (next - slots.cells.length) (none : Option α)).filterMap id = [] := by
    simp
  simp only [resize, live, whole, List.filterMap_append, empty, List.append_nil]

@[simp] theorem resize_map (slots : Slots α) (change : α → α) (next : Nat) :
    (slots.map change).resize next = (slots.resize next).map change := by
  simp [resize, map, List.map_take]

theorem push_map (slots : Slots α) (change : α → α) (entry : α) :
    (slots.map change).push (change entry) = (slots.push entry).map change := by
  simp [push, map]

theorem erase_map (slots : Slots α) (change : α → α) (number : Nat) :
    (slots.map change).erase number = (slots.erase number).map change := by
  simp [erase, map, List.map_set]

/-- Erasing a live entry leaves one live entry less. -/
theorem length_live_erase {slots : Slots α} {number : Nat} {entry : α}
    (found : slots.get? number = some entry) :
    (slots.erase number).live.length + 1 = slots.live.length := by
  have known : number < slots.cells.length := lt_next found
  have cell : slots.cells[number] = some entry := by
    simpa [get?, List.getElem?_eq_getElem known] using found
  have before : slots.live = (slots.cells.take number).filterMap id ++
      entry :: (slots.cells.drop (number + 1)).filterMap id := by
    unfold live
    conv => lhs; rw [← List.take_append_drop number slots.cells, List.drop_eq_getElem_cons known]
    rw [List.filterMap_append, cell]
    rfl
  have after : (slots.erase number).live = (slots.cells.take number).filterMap id ++
      (slots.cells.drop (number + 1)).filterMap id := by
    unfold live erase
    rw [List.set_eq_take_append_cons_drop, if_pos known, List.filterMap_append]
    rfl
  rw [before, after]
  simp only [List.length_append, List.length_cons, Nat.add_assoc]

/-- The slot with number zero was handed out and is empty. -/
structure Begun (slots : Slots α) : Prop where
  next_pos : 0 < slots.next
  zero_empty : slots.get? 0 = none

namespace Begun

variable {slots : Slots α}

theorem fresh : (fresh : Slots α).Begun := ⟨Nat.zero_lt_one, rfl⟩

theorem push (begun : slots.Begun) (entry : α) : (slots.push entry).Begun := by
  refine ⟨by simp, ?_⟩
  rw [get?_push, if_neg (Nat.ne_of_lt begun.next_pos), begun.zero_empty]

theorem erase (begun : slots.Begun) (erased : Nat) : (slots.erase erased).Begun := by
  refine ⟨by simpa using begun.next_pos, ?_⟩
  rw [get?_erase, begun.zero_empty]
  split <;> rfl

theorem map (begun : slots.Begun) (change : α → α) : (slots.map change).Begun := by
  refine ⟨by simpa using begun.next_pos, ?_⟩
  rw [get?_map, begun.zero_empty]
  rfl

theorem resize (begun : slots.Begun) {next : Nat} (grows : slots.next ≤ next) :
    (slots.resize next).Begun := by
  refine ⟨by simpa using Nat.lt_of_lt_of_le begun.next_pos grows, ?_⟩
  rw [get?_resize slots grows, begun.zero_empty]

end Begun

def Numbered (number : α → Nat) (slots : Slots α) : Prop :=
  ∀ slot entry, slots.get? slot = some entry → number entry = slot

namespace Numbered

variable {number : α → Nat} {slots : Slots α}

theorem fresh : Numbered number (fresh : Slots α) := by
  intro slot entry found
  simp at found

theorem push (numbered : Numbered number slots) {entry : α} (next : number entry = slots.next) :
    Numbered number (slots.push entry) := by
  intro slot other found
  rw [get?_push] at found
  split at found
  next same =>
    cases found
    exact next.trans same.symm
  next => exact numbered slot other found

theorem erase (numbered : Numbered number slots) (erased : Nat) :
    Numbered number (slots.erase erased) := by
  intro slot entry found
  rw [get?_erase] at found
  split at found
  next => cases found
  next => exact numbered slot entry found

theorem map (numbered : Numbered number slots) {change : α → α}
    (keeps : ∀ entry, number (change entry) = number entry) :
    Numbered number (slots.map change) := by
  intro slot entry found
  rw [get?_map] at found
  obtain ⟨before, foundBefore, rfl⟩ := Option.map_eq_some_iff.1 found
  rw [keeps]
  exact numbered slot before foundBefore

theorem resize (numbered : Numbered number slots) {next : Nat} (grows : slots.next ≤ next) :
    Numbered number (slots.resize next) := by
  intro slot entry found
  rw [get?_resize slots grows] at found
  exact numbered slot entry found

/-- An entry is live exactly when it is found under its own number. -/
theorem mem_live_iff (numbered : Numbered number slots) {entry : α} :
    entry ∈ slots.live ↔ slots.get? (number entry) = some entry := by
  rw [mem_live]
  constructor
  · rintro ⟨slot, found⟩
    rw [numbered slot entry found]
    exact found
  · exact fun found => ⟨_, found⟩

/-- The live entries ascend. -/
theorem live_ascending (numbered : Numbered number slots) :
    slots.live.Pairwise fun first second => number first < number second := by
  rw [live_eq_range, List.pairwise_filterMap]
  apply List.Pairwise.imp _ List.pairwise_lt_range
  intro low high below first foundFirst second foundSecond
  rw [numbered low first foundFirst, numbered high second foundSecond]
  exact below

/-- Two live entries of one number are the same. -/
theorem eq_of_number (numbered : Numbered number slots) {first second : α}
    (firstLive : first ∈ slots.live) (secondLive : second ∈ slots.live)
    (same : number first = number second) : first = second := by
  have foundFirst := numbered.mem_live_iff.1 firstLive
  rw [same, numbered.mem_live_iff.1 secondLive] at foundFirst
  exact (Option.some.inj foundFirst).symm

/-- The only live entry of a live entry's number is itself. -/
theorem filter_number (numbered : Numbered number slots) {entry : α}
    (live : entry ∈ slots.live) :
    (slots.live.filter fun other => number other = number entry) = [entry] := by
  obtain ⟨front, back, split⟩ := List.append_of_mem live
  have ascending := numbered.live_ascending
  rw [split, List.pairwise_append, List.pairwise_cons] at ascending
  obtain ⟨-, ⟨above, -⟩, below⟩ := ascending
  have noneBefore : (front.filter fun other => number other = number entry) = [] := by
    rw [List.filter_eq_nil_iff]
    intro other member same
    exact Nat.ne_of_lt (below other member entry List.mem_cons_self) (of_decide_eq_true same)
  have noneAfter : (back.filter fun other => number other = number entry) = [] := by
    rw [List.filter_eq_nil_iff]
    intro other member same
    exact Nat.ne_of_gt (above other member) (of_decide_eq_true same)
  simp [split, noneBefore, noneAfter]

/-- Erasing a number drops the entry of that number from the live ones. -/
theorem live_erase (numbered : Numbered number slots) (erased : Nat) :
    (slots.erase erased).live = slots.live.filter fun entry => number entry ≠ erased := by
  rw [live_eq_range, live_eq_range, next_erase, List.filter_filterMap]
  apply List.filterMap_congr
  intro slot _
  rw [get?_erase]
  cases found : slots.get? slot with
  | none => simp
  | some entry => simp [Option.filter, numbered slot entry found]

/-- Replacing one entry is mapping over all of them. -/
theorem set_eq_map (numbered : Numbered number slots) {slot : Nat} {entry : α}
    (found : slots.get? slot = some entry) (change : α → α) :
    slots.set slot (change entry) =
      slots.map fun other => if number other = slot then change other else other := by
  apply congrArg Slots.mk
  apply List.ext_getElem?
  intro place
  rw [List.getElem?_set, List.getElem?_map]
  have known : slot < slots.cells.length := lt_next found
  by_cases same : slot = place
  · subst same
    have cell : slots.cells[slot]? = some (some entry) := by
      simpa [get?, Option.join_eq_some_iff] using found
    rw [if_pos rfl, if_pos known, cell]
    simp [numbered slot entry found]
  · rw [if_neg same]
    cases cell : slots.cells[place]? with
    | none => rfl
    | some content =>
        cases content with
        | none => rfl
        | some other =>
            have foundOther : slots.get? place = some other := by simp [get?, cell]
            have apart : number other ≠ slot := by
              rw [numbered place other foundOther]
              exact Ne.symm same
            simp [apart]

end Numbered

end PropertyGraph.Slots
