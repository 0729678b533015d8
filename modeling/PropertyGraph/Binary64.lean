/-!
# Binary64 numbers

A number of the 64-bit interchange format is held as its word, and every
operation is exact arithmetic on natural numbers followed by one rounding to
nearest, ties to even.  Equality is that of the format: a not-a-number word
equals nothing, and the two zeros are equal.
-/

namespace PropertyGraph

/-- A binary64 number, held as its interchange word. -/
structure Binary64 where
  word : UInt64
  deriving DecidableEq

namespace Binary64

/-- The place value of the sign bit, the highest of a word. -/
def signBit : Nat := 0x8000000000000000

/-- The place value of the lowest exponent bit, just above the fifty-two fraction bits. -/
def exponentUnit : Nat := 0x10000000000000

def negative (x : Binary64) : Bool := signBit ≤ x.word.toNat

def exponentField (x : Binary64) : Nat := x.word.toNat % signBit / exponentUnit

def fractionField (x : Binary64) : Nat := x.word.toNat % exponentUnit

def isNaN (x : Binary64) : Bool := x.exponentField == 2047 && x.fractionField != 0

def isInfinite (x : Binary64) : Bool := x.exponentField == 2047 && x.fractionField == 0

def isZero (x : Binary64) : Bool := x.word.toNat % signBit == 0

/-- The word that stands for every not-a-number result. -/
def nan : Binary64 := ⟨0x7ff8000000000000⟩

/-- The number itself, with all not-a-number words made one. -/
def canonical (x : Binary64) : Binary64 := if x.isNaN then nan else x

/-- Equality of numbers: not-a-number equals nothing and the zeros are equal. -/
def equal (x y : Binary64) : Bool :=
  !x.isNaN && !y.isNaN && (x.word == y.word || (x.isZero && y.isZero))

/-- The integer significand `m` of a finite number `± m · 2 ^ q`. -/
def significand (x : Binary64) : Nat :=
  if x.exponentField = 0 then x.fractionField else exponentUnit + x.fractionField

/-- The binary exponent `q` of a finite number `± m · 2 ^ q`. -/
def binaryExponent (x : Binary64) : Int :=
  if x.exponentField = 0 then -1074 else (x.exponentField : Int) - 1075

/-- The magnitude of a finite number as numerator and denominator. -/
def ratio (x : Binary64) : Nat × Nat :=
  if 0 ≤ x.binaryExponent then (x.significand <<< x.binaryExponent.toNat, 1)
  else (x.significand, 1 <<< (-x.binaryExponent).toNat)

/-- The integer nearest to `numerator / denominator`, of two equally near ones the even one. -/
def roundToEven (numerator denominator : Nat) : Nat :=
  let quotient := numerator / denominator
  let twice := 2 * (numerator % denominator)
  if twice < denominator then quotient
  else if denominator < twice then quotient + 1
  else quotient + quotient % 2

/-- The exponent `e` with `2 ^ e ≤ numerator / denominator < 2 ^ (e + 1)`, for positive arguments. -/
def floorLog2 (numerator denominator : Nat) : Int :=
  let guess : Int := (Nat.log2 numerator : Int) - Nat.log2 denominator
  let reached :=
    if 0 ≤ guess then denominator <<< guess.toNat ≤ numerator
    else denominator ≤ numerator <<< (-guess).toNat
  if reached then guess else guess - 1

/--
The number nearest to `± numerator / denominator`, ties to even.  The exponent
of the last bit is at least `-1074`; a result beyond the largest finite number
is infinite.  Adding the significand to the shifted exponent carries a
significand that rounded up to `2 ^ 53` into the exponent field.
-/
def ofRatio (negative : Bool) (numerator denominator : Nat) : Binary64 :=
  let magnitude :=
    if numerator = 0 then 0
    else
      let unit := max (floorLog2 numerator denominator - 52) (-1074)
      let significand :=
        if 0 ≤ unit then roundToEven numerator (denominator <<< unit.toNat)
        else roundToEven (numerator <<< (-unit).toNat) denominator
      min ((unit + 1074).toNat * exponentUnit + significand) (2047 * exponentUnit)
  ⟨.ofNat (if negative then signBit + magnitude else magnitude)⟩

def ofInt (value : Int) : Binary64 := ofRatio (value < 0) value.natAbs 1

def mulMagnitude (x y : Binary64) : Binary64 :=
  let (a, b) := x.ratio
  let (c, d) := y.ratio
  ofRatio false (a * c) (b * d)

/-- The quotient of the magnitudes of two finite numbers, the second not zero, rounded. -/
def divMagnitude (x y : Binary64) : Binary64 :=
  let (a, b) := x.ratio
  let (c, d) := y.ratio
  ofRatio false (a * d) (b * c)

def negate (x : Binary64) : Binary64 := ⟨.ofNat (x.word.toNat + signBit)⟩

theorem equal_comm (x y : Binary64) : x.equal y = y.equal x := by
  simp only [equal]
  rw [Bool.and_comm (!x.isNaN), Bool.and_comm x.isZero, BEq.comm]

@[simp] theorem equal_self (x : Binary64) : x.equal x = !x.isNaN := by
  simp [equal]

end Binary64

end PropertyGraph
