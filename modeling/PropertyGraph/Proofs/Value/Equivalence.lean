import PropertyGraph.Proofs.Value.Entries
import PropertyGraph.Proofs.Value.Reflexivity

/-!
# Equality as a partial equivalence

Equality of values is symmetric and transitive, and reflexive on the values
that hold numbers only.  Two maps are equal if they hold equal values under the
same keys, whatever order their entries were put in; and the sign of a zero
makes no difference.
-/

namespace PropertyGraph

namespace Binary64

def zero : Binary64 := ⟨0⟩

def negativeZero : Binary64 := zero.negate

end Binary64

namespace Value

/-- Entries are equal one by one exactly if keys and values are. -/
theorem equalEntries_iff_forall₂ {lefts rights : List (String × Value)} :
    equalEntries lefts rights = true ↔
      List.Forall₂ (fun left right => left.1 = right.1 ∧ left.2.equal right.2 = true)
        lefts rights := by
  induction lefts generalizing rights with
  | nil =>
      cases rights with
      | nil => exact iff_of_true rfl .nil
      | cons right rights => exact iff_of_false Bool.false_ne_true nofun
  | cons left lefts ih =>
      cases rights with
      | nil => exact iff_of_false Bool.false_ne_true nofun
      | cons right rights =>
          rw [List.forall₂_cons, ← ih, equalEntries, Bool.and_eq_true, Bool.and_eq_true,
            decide_eq_true_eq]

/-- Maps are equal exactly if the last values under each key are, or there are none. -/
theorem equal_ofEntries_iff {entries others : List (String × Value)} :
    (ofEntries entries).equal (ofEntries others) = true ↔
      ∀ key, Option.Rel (fun held found => held.equal found = true)
        (entries.reverse.lookup key) (others.reverse.lookup key) := by
  have pairs := forall₂_iff_lookup (R := fun held found : Value => held.equal found = true)
    (ascending_arrange entries) (ascending_arrange others)
  simp only [lookup_arrange] at pairs
  exact equalEntries_iff_forall₂.trans pairs

/-- The second value is the first one with the sign put before zeros at any places inside it. -/
inductive ZerosNegated : Value → Value → Prop
  | same (value : Value) : ZerosNegated value value
  | zero : ZerosNegated (float .zero) (float .negativeZero)
  | array (pairs : List (Value × Value))
      (each : ∀ pair ∈ pairs, ZerosNegated pair.1 pair.2) :
      ZerosNegated (array (pairs.map Prod.fst)) (array (pairs.map Prod.snd))
  | map (pairs : List (String × Value × Value))
      (each : ∀ pair ∈ pairs, ZerosNegated pair.2.1 pair.2.2) :
      ZerosNegated (map (pairs.map fun (key, held, _) => (key, held)))
        (map (pairs.map fun (key, _, held) => (key, held)))

theorem equalItems_pairs {pairs : List (Value × Value)}
    (each : ∀ pair ∈ pairs, pair.1.equal pair.2 = !pair.1.holdsNaN) :
    equalItems (pairs.map Prod.fst) (pairs.map Prod.snd) =
      !itemsHoldNaN (pairs.map Prod.fst) := by
  induction pairs with
  | nil => rfl
  | cons pair pairs ih =>
      obtain ⟨first, others⟩ := List.forall_mem_cons.1 each
      simp only [List.map_cons, equalItems, itemsHoldNaN, first, ih others, Bool.not_or]

theorem equalEntries_pairs {pairs : List (String × Value × Value)}
    (each : ∀ pair ∈ pairs, pair.2.1.equal pair.2.2 = !pair.2.1.holdsNaN) :
    equalEntries (pairs.map fun (key, held, _) => (key, held))
        (pairs.map fun (key, _, held) => (key, held)) =
      !entriesHoldNaN (pairs.map fun (key, held, _) => (key, held)) := by
  induction pairs with
  | nil => rfl
  | cons pair pairs ih =>
      obtain ⟨first, others⟩ := List.forall_mem_cons.1 each
      simp only [List.map_cons, equalEntries, entriesHoldNaN, first, ih others, Bool.not_or,
        decide_true, Bool.true_and]

/-- A value equals itself with some zeros negated exactly if it holds numbers only. -/
theorem ZerosNegated.equal_eq {first second : Value} (negated : first.ZerosNegated second) :
    first.equal second = !first.holdsNaN := by
  induction negated with
  | same value => exact equal_self value
  | zero => decide
  | array pairs _ ih => exact equalItems_pairs ih
  | map pairs _ ih => exact equalEntries_pairs ih

/--
Equality of values is symmetric and transitive, and a value equals itself
exactly if no not-a-number occurs in it at any depth.  Maps are compared by
what was last put in under each key, so the order of entries under different
keys makes no difference.  A value with numbers only, and no other, equals what
it becomes when zeros anywhere in it are negated.  Values of different variants
are never equal.
-/
theorem equal_partial_equivalence :
    (∀ first second : Value, first.equal second = true → second.equal first = true) ∧
      (∀ first second third : Value, first.equal second = true →
        second.equal third = true → first.equal third = true) ∧
      (∀ value : Value, value.equal value = true ↔ value.holdsNaN = false) ∧
      (∀ entries others : List (String × Value),
        (ofEntries entries).equal (ofEntries others) = true ↔
          ∀ key, Option.Rel (fun held found => held.equal found = true)
            (entries.reverse.lookup key) (others.reverse.lookup key)) ∧
      (∀ entries reordered : List (String × Value), (entries.map Prod.fst).Nodup →
        entries.Perm reordered → ofEntries entries = ofEntries reordered) ∧
      (∀ first second : Value, first.ZerosNegated second →
        (first.equal second = true ↔ first.holdsNaN = false)) ∧
      ∀ first second : Value, first.typeName ≠ second.typeName →
        first.equal second = false := by
  refine ⟨?_, fun first _ _ => equal_trans first, ?_, fun _ _ => equal_ofEntries_iff, ?_, ?_, ?_⟩
  · intro first second same
    rw [equal_comm, same]
  · intro value
    rw [equal_self, Bool.not_eq_true']
  · intro entries reordered once same
    exact congrArg map (arrange_perm once same)
  · intro first second negated
    rw [negated.equal_eq, Bool.not_eq_true']
  · intro first second apart
    exact Bool.eq_false_iff.2 fun same => apart (typeName_of_equal same)

def zeroValue : Value :=
  array [map [("depth", float .zero), ("height", integer 0)], float .zero, null]

def negatedValue : Value :=
  array [map [("depth", float .negativeZero), ("height", integer 0)], float .zero, null]

theorem zerosNegated_negatedValue : zeroValue.ZerosNegated negatedValue := by
  have entries : ZerosNegated (map [("depth", float .zero), ("height", integer 0)])
      (map [("depth", float .negativeZero), ("height", integer 0)]) := by
    refine .map [("depth", float .zero, float .negativeZero), ("height", integer 0, integer 0)] ?_
    simp only [List.forall_mem_cons]
    exact ⟨.zero, .same _, fun _ known => nomatch known⟩
  refine .array [(_, _), (_, _), (_, _)] ?_
  simp only [List.forall_mem_cons]
  exact ⟨entries, .same _, .same _, fun _ known => nomatch known⟩

/--
Values with differently signed zeros are equal in both directions, their maps
may be put together in either order, and no integer equals a point in time.
-/
theorem equal_partial_equivalence_nested :
    zeroValue.equal negatedValue = true ∧ negatedValue.equal zeroValue = true ∧
      zeroValue.equal zeroValue = true ∧
      ofEntries [("depth", float .zero), ("height", integer 0)] =
        ofEntries [("height", integer 0), ("depth", float .zero)] ∧
      (integer 5).equal (dateTime 5) = false := by
  obtain ⟨symmetric, transitive, -, -, independent, negated, apart⟩ := equal_partial_equivalence
  have same := (negated _ _ zerosNegated_negatedValue).2 (by decide)
  have back := symmetric _ _ same
  exact ⟨same, back, transitive _ _ _ same back,
    independent _ _ (by decide) (.swap _ _ _), apart _ _ (by decide)⟩

/-- Beside a not-a-number a zero cannot be negated without loss of equality. -/
theorem negated_beside_nan :
    ¬ ∀ first second : Value, first.ZerosNegated second → first.equal second = true := by
  intro always
  have negated : ZerosNegated (array [float .nan, float .zero])
      (array [float .nan, float .negativeZero]) := by
    refine .array [(_, _), (_, _)] ?_
    simp only [List.forall_mem_cons]
    exact ⟨.same _, .zero, fun _ known => nomatch known⟩
  exact absurd (always _ _ negated) (by decide)

end Value

end PropertyGraph
