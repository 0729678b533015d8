import PropertyGraph.Binary64
import PropertyGraph.Json.Basic

/-!
# Typed reading of JSON trees

What a tree means where a text, an integer, a float, a name or a record is
expected.  A record is an object, whose other members are ignored, or an array
of the record's fields in order.
-/

namespace PropertyGraph.Json

namespace Number

/-- The integer of an integer literal; a literal with a sign before zero is not one. -/
def integer? (literal : Number) : Option Int :=
  if literal.fraction.isEmpty ∧ literal.exponent = none ∧
      ¬(literal.negative ∧ literal.whole = 0) then
    some (if literal.negative then -(literal.whole : Int) else literal.whole)
  else none

/-- Append digits to a significand while it fits a 64-bit word; also how many were appended. -/
def appendDigits : Nat → List Char → Nat × Nat
  | significand, [] => (significand, 0)
  | significand, digit :: rest =>
    let longer := significand * 10 + (digit.toNat - 48)
    if longer < UInt64.size then
      let (full, appended) := appendDigits longer rest
      (full, appended + 1)
    else (significand, 0)

def powerOfTen (exponent : Nat) : Binary64 := .ofRatio false (Nat.pow 10 exponent) 1

/--
A non-negative float times a power of ten, in steps of at most `10 ^ 308`; each
step multiplies or divides by a rounded power and rounds the result.  There is
no result beyond the largest finite float.
-/
def scale (significand : Binary64) (exponent : Int) : Option Binary64 :=
  if 0 ≤ exponent then
    if exponent ≤ 308 then
      let product := significand.mulMagnitude (powerOfTen exponent.toNat)
      if product.isInfinite then none else some product
    else if significand.isZero then some significand
    else none
  else if -308 ≤ exponent then
    some (significand.divMagnitude (powerOfTen (-exponent).toNat))
  else if significand.isZero then some significand
  else scale (significand.divMagnitude (powerOfTen 308)) (exponent + 308)
termination_by (-exponent).toNat

/--
The float that a literal is read as.  Digits are taken while they fit a 64-bit
word: of the whole part the others only count for the exponent, and of the
fraction the others are ignored.
-/
def binary64? (literal : Number) : Option Binary64 :=
  let wholeDigits := Nat.toDigits 10 literal.whole
  let (leading, taken) := appendDigits 0 wholeDigits
  let (significand, places) := appendDigits leading literal.fraction
  let exponent : Int := (wholeDigits.length - taken : Nat) - (places : Int) +
    literal.exponent.getD 0
  (scale (.ofInt significand) exponent).map fun magnitude =>
    if literal.negative then magnitude.negate else magnitude

end Number

def text? : Json → Option String
  | string text => text
  | _ => none

def boolean? : Json → Option Bool
  | boolean flag => some flag
  | _ => none

def word? : Json → Option UInt64
  | number literal =>
    match literal.integer? with
    | some (.ofNat value) => if value < UInt64.size then some (.ofNat value) else none
    | _ => none
  | _ => none

def int64? : Json → Option Int64
  | number literal =>
    match literal.integer? with
    | some value =>
      if Int64.minValue.toInt ≤ value ∧ value ≤ Int64.maxValue.toInt then some (.ofInt value)
      else none
    | none => none
  | _ => none

/-- The float of any number literal that does not exceed the finite ones. -/
def binary64? : Json → Option Binary64
  | number literal => literal.binary64?
  | _ => none

/-- A bare name: a string, or an object with the name as its only member and null under it. -/
def name? : Json → Option String
  | string text => text
  | object [(text, null)] => text
  | _ => none

def listOf? {α : Type} (item? : Json → Option α) : Json → Option (List α)
  | array items => items.mapM item?
  | _ => none

/-- The value under a name that occurs at most once. -/
def member? (members : List (Option String × Json)) (name : String) : Option (Option Json) :=
  match members.filter fun member => member.1 = some name with
  | [] => some none
  | [(_, value)] => some (some value)
  | _ => none

/--
The values of the named fields of a record in their order, with `none` for a
missing one.  No field may be given twice and every member's name must be a
text; an array has no more items than there are fields.
-/
def fields? (names : List String) : Json → Option (List (Option Json))
  | object members =>
    if members.all (·.1.isSome) then names.mapM (member? members) else none
  | array items =>
    if items.length ≤ names.length then
      some (items.map some ++ List.replicate (names.length - items.length) none)
    else none
  | _ => none

end PropertyGraph.Json
