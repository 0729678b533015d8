import PropertyGraph.Value

/-!
# Equality of values

Values are compared item by item and entry by entry down to their leaves, and
floats as numbers.  Which of two values is asked for the other does not matter,
and values that equal the same one are equal, however deep they are nested.
-/

namespace PropertyGraph

/-- Numbers that equal the same number are equal, zeros of either sign included. -/
theorem Binary64.equal_trans {first second third : Binary64} (same : first.equal second = true)
    (again : second.equal third = true) : first.equal third = true := by
  simp only [equal, Bool.and_eq_true, Bool.or_eq_true, beq_iff_eq] at same again ⊢
  obtain ⟨⟨number, -⟩, near⟩ := same
  obtain ⟨⟨-, numberToo⟩, far⟩ := again
  refine ⟨⟨number, numberToo⟩, ?_⟩
  rcases near with words | ⟨zero, zeroBetween⟩
  · obtain rfl : first = second := congrArg Binary64.mk words
    exact far
  · rcases far with words | ⟨-, zeroToo⟩
    · obtain rfl : second = third := congrArg Binary64.mk words
      exact .inr ⟨zero, zeroBetween⟩
    · exact .inr ⟨zero, zeroToo⟩

namespace Value

mutual

theorem equal_comm : ∀ first second : Value, first.equal second = second.equal first
  | string left, second => by
      cases second with
      | string right => simp only [equal, eq_comm]
      | _ => rfl
  | integer left, second => by
      cases second with
      | integer right => simp only [equal, eq_comm]
      | _ => rfl
  | float left, second => by
      cases second with
      | float right => exact left.equal_comm right
      | _ => rfl
  | boolean left, second => by
      cases second with
      | boolean right => simp only [equal, eq_comm]
      | _ => rfl
  | dateTime left, second => by
      cases second with
      | dateTime right => simp only [equal, eq_comm]
      | _ => rfl
  | array left, second => by
      cases second with
      | array right => exact equalItems_comm left right
      | _ => rfl
  | map left, second => by
      cases second with
      | map right => exact equalEntries_comm left right
      | _ => rfl
  | null, second => by cases second <;> rfl

theorem equalItems_comm : ∀ lefts rights : List Value,
    equalItems lefts rights = equalItems rights lefts
  | [], [] => rfl
  | [], _ :: _ => rfl
  | _ :: _, [] => rfl
  | left :: lefts, right :: rights => by
      rw [equalItems, equalItems, equal_comm left right, equalItems_comm lefts rights]

theorem equalEntries_comm : ∀ lefts rights : List (String × Value),
    equalEntries lefts rights = equalEntries rights lefts
  | [], [] => rfl
  | [], _ :: _ => rfl
  | _ :: _, [] => rfl
  | (key, left) :: lefts, (other, right) :: rights => by
      rw [equalEntries, equalEntries, equal_comm left right, equalEntries_comm lefts rights]
      simp only [eq_comm]

end

mutual

theorem equal_trans : ∀ (first : Value) {second third : Value}, first.equal second = true →
    second.equal third = true → first.equal third = true
  | string left, second, third, same, again => by
      cases second with
      | string middle => exact of_decide_eq_true same ▸ again
      | _ => cases same
  | integer left, second, third, same, again => by
      cases second with
      | integer middle => exact of_decide_eq_true same ▸ again
      | _ => cases same
  | float left, second, third, same, again => by
      cases second with
      | float middle =>
          cases third with
          | float right => exact Binary64.equal_trans same again
          | _ => cases again
      | _ => cases same
  | boolean left, second, third, same, again => by
      cases second with
      | boolean middle => exact of_decide_eq_true same ▸ again
      | _ => cases same
  | dateTime left, second, third, same, again => by
      cases second with
      | dateTime middle => exact of_decide_eq_true same ▸ again
      | _ => cases same
  | array lefts, second, third, same, again => by
      cases second with
      | array middles =>
          cases third with
          | array rights => exact equalItems_trans lefts same again
          | _ => cases again
      | _ => cases same
  | map lefts, second, third, same, again => by
      cases second with
      | map middles =>
          cases third with
          | map rights => exact equalEntries_trans lefts same again
          | _ => cases again
      | _ => cases same
  | null, second, third, same, again => by
      cases second with
      | null => exact again
      | _ => cases same

theorem equalItems_trans : ∀ (lefts : List Value) {middles rights : List Value},
    equalItems lefts middles = true → equalItems middles rights = true →
      equalItems lefts rights = true
  | [], middles, rights, same, again => by
      cases middles with
      | nil => exact again
      | cons middle middles => cases same
  | left :: lefts, middles, rights, same, again => by
      cases middles with
      | nil => cases same
      | cons middle middles =>
          cases rights with
          | nil => cases again
          | cons right rights =>
              rw [equalItems, Bool.and_eq_true] at same again ⊢
              exact ⟨equal_trans left same.1 again.1, equalItems_trans lefts same.2 again.2⟩

theorem equalEntries_trans : ∀ (lefts : List (String × Value))
    {middles rights : List (String × Value)}, equalEntries lefts middles = true →
      equalEntries middles rights = true → equalEntries lefts rights = true
  | [], middles, rights, same, again => by
      cases middles with
      | nil => exact again
      | cons middle middles => cases same
  | (key, left) :: lefts, middles, rights, same, again => by
      cases middles with
      | nil => cases same
      | cons middle middles =>
          cases rights with
          | nil => cases again
          | cons right rights =>
              rw [equalEntries, Bool.and_eq_true, Bool.and_eq_true, decide_eq_true_eq]
                at same again ⊢
              exact ⟨⟨same.1.1.trans again.1.1, equal_trans left same.1.2 again.1.2⟩,
                equalEntries_trans lefts same.2 again.2⟩

end

/-- Equal values are of the same variant. -/
theorem typeName_of_equal {first second : Value} (same : first.equal second = true) :
    first.typeName = second.typeName := by
  cases first with
  | string => cases second with
    | string => rfl
    | _ => cases same
  | integer => cases second with
    | integer => rfl
    | _ => cases same
  | float => cases second with
    | float => rfl
    | _ => cases same
  | boolean => cases second with
    | boolean => rfl
    | _ => cases same
  | dateTime => cases second with
    | dateTime => rfl
    | _ => cases same
  | array => cases second with
    | array => rfl
    | _ => cases same
  | map => cases second with
    | map => rfl
    | _ => cases same
  | null => cases second with
    | null => rfl
    | _ => cases same

end Value

end PropertyGraph
