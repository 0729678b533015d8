/-!
# Slot tables

A table whose entries are numbered in the order of their arrival, beginning
with one.  An erased entry leaves an empty slot, so that no number is used
again.
-/

namespace PropertyGraph

/-- Numbered slots, some of them empty; the slot with number zero always is. -/
structure Slots (α : Type) where
  cells : List (Option α)

namespace Slots

variable {α : Type}

def fresh : Slots α := ⟨[none]⟩

def next (slots : Slots α) : Nat := slots.cells.length

def get? (slots : Slots α) (number : Nat) : Option α := slots.cells[number]?.join

def push (slots : Slots α) (entry : α) : Slots α := ⟨slots.cells ++ [some entry]⟩

def set (slots : Slots α) (number : Nat) (entry : α) : Slots α :=
  ⟨slots.cells.set number (some entry)⟩

def erase (slots : Slots α) (number : Nat) : Slots α := ⟨slots.cells.set number none⟩

def map (change : α → α) (slots : Slots α) : Slots α := ⟨slots.cells.map (Option.map change)⟩

/-- The entries in the order of their numbers. -/
def live (slots : Slots α) : List α := slots.cells.filterMap id

/-- The table cut or filled up with empty slots, so that `next` is the next number. -/
def resize (slots : Slots α) (next : Nat) : Slots α :=
  ⟨slots.cells.take next ++ List.replicate (next - slots.cells.length) none⟩

@[simp] theorem next_push (slots : Slots α) (entry : α) :
    (slots.push entry).next = slots.next + 1 := by
  simp [push, next]

@[simp] theorem next_set (slots : Slots α) (number : Nat) (entry : α) :
    (slots.set number entry).next = slots.next := by
  simp [set, next]

@[simp] theorem next_erase (slots : Slots α) (number : Nat) :
    (slots.erase number).next = slots.next := by
  simp [erase, next]

@[simp] theorem next_map (slots : Slots α) (change : α → α) :
    (slots.map change).next = slots.next := by
  simp [map, next]

@[simp] theorem next_resize (slots : Slots α) (next : Nat) : (slots.resize next).next = next := by
  simp only [resize, Slots.next, List.length_append, List.length_take, List.length_replicate]
  omega

/-- An entry that was just added has the number that was next. -/
theorem get?_push (slots : Slots α) (entry : α) (number : Nat) :
    (slots.push entry).get? number =
      if number = slots.next then some entry else slots.get? number := by
  unfold push get? Slots.next
  by_cases same : number = slots.cells.length
  · simp [same]
  · rw [if_neg same]
    rcases Nat.lt_or_gt_of_ne same with below | above
    · rw [List.getElem?_append_left below]
    · rw [List.getElem?_eq_none (by simp; omega), List.getElem?_eq_none (by omega)]

/-- Erasing empties one slot and keeps the others. -/
theorem get?_erase (slots : Slots α) (erased number : Nat) :
    (slots.erase erased).get? number = if number = erased then none else slots.get? number := by
  simp only [erase, get?, List.getElem?_set]
  split
  next same =>
    subst same
    split <;> simp
  next other => rw [if_neg (Ne.symm other)]

/-- Replacing changes one entry, if it has a slot, and keeps the others. -/
theorem get?_set (slots : Slots α) (replaced number : Nat) (entry : α)
    (known : replaced < slots.next) :
    (slots.set replaced entry).get? number =
      if number = replaced then some entry else slots.get? number := by
  unfold Slots.next at known
  simp only [set, get?, List.getElem?_set]
  by_cases same : number = replaced
  · simp [same, known]
  · simp [same, Ne.symm same]

end Slots

end PropertyGraph
