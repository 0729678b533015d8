import PropertyGraph.Binary64

/-!
# Shortest decimals

The shortest decimal of a binary64 number has the fewest digits among the
decimals that read back as that number, and among those of equal length it is
the nearest one.  The search is exact: on the grid of decimals with one,
two, … seventeen digits it tests the two neighbours of the number.
-/

namespace PropertyGraph

/-- The decimal `0.d₁d₂… · 10 ^ point`, with its digits as characters. -/
structure Decimal where
  digits : List Char
  point : Int
  deriving DecidableEq

inductive Tie where
  | up
  | even
  deriving DecidableEq

namespace Decimal

def whole (decimal : Decimal) : List Char :=
  if decimal.point ≤ 0 then ['0']
  else
    let digits := decimal.digits.take decimal.point.toNat
    digits ++ List.replicate (decimal.point.toNat - digits.length) '0'

def fraction (decimal : Decimal) : List Char :=
  if decimal.point ≤ 0 then List.replicate (-decimal.point).toNat '0' ++ decimal.digits
  else decimal.digits.drop decimal.point.toNat

/-- The decimal `coefficient · 10 ^ exponent` without trailing zeros. -/
def ofScaled (coefficient : Nat) (exponent : Int) : Decimal :=
  let digits := Nat.toDigits 10 coefficient
  ⟨(digits.reverse.dropWhile (· == '0')).reverse, digits.length + exponent⟩

/--
The number of digits before the point of a positive ratio: the `point` with
`10 ^ (point - 1) ≤ numerator / denominator < 10 ^ point`.
-/
def pointOf (numerator denominator : Nat) : Int :=
  if denominator ≤ numerator then (Nat.toDigits 10 (numerator / denominator)).length
  else
    let places := (Nat.toDigits 10 (denominator / numerator)).length
    if numerator * Nat.pow 10 (places - 1) = denominator then 2 - (places : Int) else 1 - (places : Int)

end Decimal

namespace Binary64

/-- The factor `2 ^ exponent` or `10 ^ exponent` as numerator and denominator. -/
def power (base : Nat) (exponent : Int) : Nat × Nat :=
  if 0 ≤ exponent then (base.pow exponent.toNat, 1) else (1, base.pow (-exponent).toNat)

/--
The bounds of the reals that round to a finite number `m · 2 ^ q`, in quarters
of its last bit.  Below a power of two the lower neighbour is half as far away.
-/
def roundingBounds (x : Binary64) : Nat × Nat :=
  let m := x.significand
  let below := if m = exponentUnit ∧ 1 < x.exponentField then 1 else 2
  (4 * m - below, 4 * m + 2)

/--
The decimal with `count` digits nearest to a positive number among those that
round to it, if one of its two neighbours on that grid does.  The bounds
themselves round to the number exactly when its significand is even.
-/
def onGrid? (tie : Tie) (x : Binary64) (point : Int) (count : Nat) : Option Decimal :=
  let (low, high) := x.roundingBounds
  let (bitsUp, bitsDown) := power 2 (x.binaryExponent - 2)
  let (gridUp, gridDown) := power 10 (point - count)
  let unit := bitsUp * gridDown
  let step := bitsDown * gridUp
  let value := 4 * x.significand * unit
  let closed := x.significand % 2 = 0
  let rounds (candidate : Nat) : Bool :=
    if closed then low * unit ≤ candidate * step ∧ candidate * step ≤ high * unit
    else low * unit < candidate * step ∧ candidate * step < high * unit
  let lower := value / step
  let twice := 2 * (value % step)
  let lowerNearer :=
    twice < step ∨ (twice = step ∧ tie = .even ∧ lower % 2 = 0)
  let found (candidate : Nat) := some (Decimal.ofScaled candidate (point - count))
  match rounds lower, rounds (lower + 1) with
  | true, true => if lowerNearer then found lower else found (lower + 1)
  | true, false => found lower
  | false, true => found (lower + 1)
  | false, false => none

/-- The shortest decimal of the magnitude of a finite number; zero has no digits. -/
def shortest (tie : Tie) (x : Binary64) : Decimal :=
  if x.significand = 0 then ⟨[], 0⟩
  else
    let (numerator, denominator) := x.ratio
    let point := Decimal.pointOf numerator denominator
    ((List.range 17).findSome? fun shorter => x.onGrid? tie point (shorter + 1)).getD ⟨[], 0⟩

end Binary64

end PropertyGraph
