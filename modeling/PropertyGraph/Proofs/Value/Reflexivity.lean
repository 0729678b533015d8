import PropertyGraph.Proofs.Value.Equality
import PropertyGraph.Schema.DataType

/-!
# Which values equal themselves

A value equals itself exactly if no float that is no number occurs in it, at
whatever depth; and a value in which one occurs equals nothing at all.  Storing
a value neither brings in such a float nor takes one away, since rounding an
integer always gives a number.
-/

namespace PropertyGraph

namespace Binary64

/--
A sign and a magnitude up to the infinite one make a word that stands for a
number: only the infinite one has all exponent bits, and it has no fraction bits.
-/
theorem isNaN_ofMagnitude {negative : Bool} {magnitude : Nat}
    (bounded : magnitude ≤ 2047 * exponentUnit) :
    isNaN ⟨.ofNat (if negative then signBit + magnitude else magnitude)⟩ = false := by
  have fits : (if negative then signBit + magnitude else magnitude) < 2 ^ 64 := by
    unfold signBit
    unfold exponentUnit at bounded
    split <;> omega
  have word : (UInt64.ofNat (if negative then signBit + magnitude else magnitude)).toNat =
      if negative then signBit + magnitude else magnitude := by
    rw [UInt64.toNat_ofNat']
    exact Nat.mod_eq_of_lt fits
  rw [isNaN, Bool.and_eq_false_iff, exponentField, fractionField, word]
  by_cases largest : magnitude = 2047 * exponentUnit
  · right
    rw [largest]
    cases negative <;> decide
  · left
    simp only [signBit, exponentUnit, beq_eq_false_iff_ne] at bounded largest ⊢
    split <;> omega

/-- A rounded ratio is a number. -/
theorem isNaN_ofRatio (negative : Bool) (numerator denominator : Nat) :
    (ofRatio negative numerator denominator).isNaN = false := by
  apply isNaN_ofMagnitude
  split
  next => exact Nat.zero_le _
  next => exact Nat.min_le_right _ _

/-- Floats that are equal are numbers. -/
theorem isNaN_of_equal {first second : Binary64} (same : first.equal second = true) :
    second.isNaN = false := by
  simp only [equal, Bool.and_eq_true, Bool.not_eq_true'] at same
  exact same.1.2

end Binary64

namespace Value

mutual

/-- Whether a float that is no number occurs in the value. -/
def holdsNaN : Value → Bool
  | float number => number.isNaN
  | array items => itemsHoldNaN items
  | map entries => entriesHoldNaN entries
  | string _ => false
  | integer _ => false
  | boolean _ => false
  | dateTime _ => false
  | null => false

def itemsHoldNaN : List Value → Bool
  | [] => false
  | item :: rest => holdsNaN item || itemsHoldNaN rest

def entriesHoldNaN : List (String × Value) → Bool
  | [] => false
  | (_, held) :: rest => holdsNaN held || entriesHoldNaN rest

end

mutual

/-- A value equals itself exactly if it holds numbers only. -/
theorem equal_self : ∀ value : Value, value.equal value = !value.holdsNaN
  | string text => by simp [equal, holdsNaN]
  | integer number => by simp [equal, holdsNaN]
  | float number => number.equal_self
  | boolean flag => by simp [equal, holdsNaN]
  | dateTime milliseconds => by simp [equal, holdsNaN]
  | array items => equalItems_self items
  | map entries => equalEntries_self entries
  | null => rfl

theorem equalItems_self : ∀ items : List Value, equalItems items items = !itemsHoldNaN items
  | [] => rfl
  | item :: rest => by
      rw [equalItems, itemsHoldNaN, equal_self item, equalItems_self rest, Bool.not_or]

theorem equalEntries_self : ∀ entries : List (String × Value),
    equalEntries entries entries = !entriesHoldNaN entries
  | [] => rfl
  | (key, held) :: rest => by
      rw [equalEntries, entriesHoldNaN, equal_self held, equalEntries_self rest, Bool.not_or,
        decide_eq_true rfl, Bool.true_and]

end

mutual

/-- What some value equals holds numbers only. -/
theorem holdsNaN_of_equal : ∀ {first : Value} (second : Value), first.equal second = true →
    second.holdsNaN = false
  | first, float number, same => by
      cases first with
      | float other => exact Binary64.isNaN_of_equal same
      | _ => cases same
  | first, array items, same => by
      cases first with
      | array others => exact itemsHoldNaN_of_equal items same
      | _ => cases same
  | first, map entries, same => by
      cases first with
      | map others => exact entriesHoldNaN_of_equal entries same
      | _ => cases same
  | _, string _, _ => rfl
  | _, integer _, _ => rfl
  | _, boolean _, _ => rfl
  | _, dateTime _, _ => rfl
  | _, null, _ => rfl

theorem itemsHoldNaN_of_equal : ∀ {firsts : List Value} (seconds : List Value),
    equalItems firsts seconds = true → itemsHoldNaN seconds = false
  | _, [], _ => rfl
  | firsts, second :: rest, same => by
      cases firsts with
      | nil => cases same
      | cons first others =>
          rw [equalItems, Bool.and_eq_true] at same
          rw [itemsHoldNaN, holdsNaN_of_equal second same.1, itemsHoldNaN_of_equal rest same.2]
          rfl

theorem entriesHoldNaN_of_equal : ∀ {firsts : List (String × Value)}
    (seconds : List (String × Value)), equalEntries firsts seconds = true →
      entriesHoldNaN seconds = false
  | _, [], _ => rfl
  | firsts, (key, second) :: rest, same => by
      cases firsts with
      | nil => cases same
      | cons first others =>
          rw [equalEntries, Bool.and_eq_true, Bool.and_eq_true] at same
          rw [entriesHoldNaN, holdsNaN_of_equal second same.1.2,
            entriesHoldNaN_of_equal rest same.2]
          rfl

end

/-- The stored form of a value holds a float that is no number exactly if the value does. -/
theorem holdsNaN_coerce (dataType : DataType) (value : Value) :
    (dataType.coerce value).holdsNaN = value.holdsNaN := by
  cases dataType with
  | float =>
      cases value with
      | integer number => exact Binary64.isNaN_ofRatio _ _ _
      | _ => rfl
  | _ => rfl

end Value

end PropertyGraph
