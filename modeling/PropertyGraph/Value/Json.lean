import PropertyGraph.Decimal
import PropertyGraph.Json.Printer
import PropertyGraph.Json.Record
import PropertyGraph.Value

/-!
# Values as JSON

A value is an object whose only member is named for the value's variant, and
null is its bare name.  Reading takes a limit on how deeply containers may
nest; each level of an array or map value takes two of them.
-/

namespace PropertyGraph

/--
A float as a JSON literal: the fewest digits that read back, the even one of
two equally near ones, positional with a fraction from `1e-5` up to `1e16` and
with an exponent elsewhere.  Numbers that are not finite are null.
-/
def Binary64.toJson (x : Binary64) : Json :=
  if x.isNaN || x.isInfinite then .null
  else
    let decimal := x.shortest .even
    if -5 < decimal.point ∧ decimal.point ≤ 16 then
      let fraction := decimal.fraction
      .number ⟨x.negative, Nat.ofDigitChars 10 decimal.whole 0,
        if fraction.isEmpty then ['0'] else fraction, none⟩
    else
      .number ⟨x.negative, Nat.ofDigitChars 10 (decimal.digits.take 1) 0, decimal.digits.drop 1,
        some (decimal.point - 1)⟩

namespace Value

def tagged (tag : String) (content : Json) : Json := .ofMembers [(tag, content)]

mutual

def toJson : Value → Json
  | string text => tagged "String" (.ofText text)
  | integer number => tagged "Integer" (.ofInt number.toInt)
  | float number => tagged "Float" number.toJson
  | boolean flag => tagged "Boolean" (.boolean flag)
  | dateTime milliseconds => tagged "DateTime" (.ofInt milliseconds.toInt)
  | array items => tagged "Array" (.array (itemTrees items))
  | map entries => tagged "Map" (.object (entryTrees entries))
  | null => .ofText "Null"

def itemTrees : List Value → List Json
  | [] => []
  | item :: items => toJson item :: itemTrees items

def entryTrees : List (String × Value) → List (Option String × Json)
  | [] => []
  | (key, value) :: entries => (some key, toJson value) :: entryTrees entries

end

/-- The limit inside one more container; there is none inside the last one. -/
def enter (limit : Nat) : Option Nat := if limit ≤ 1 then none else some (limit - 1)

mutual

/-- The value of a JSON tree, whose containers nest less deeply than the limit. -/
def ofTree? (limit : Nat) : Json → Option Value
  | .string (some "Null") => some null
  | .object [(some tag, content)] =>
    match enter limit with
    | none => none
    | some limit =>
      match tag with
      | "String" => content.text?.map string
      | "Integer" => content.int64?.map integer
      | "Float" => content.binary64?.map float
      | "Boolean" => content.boolean?.map boolean
      | "DateTime" => content.int64?.map dateTime
      | "Array" =>
        match content with
        | .array items =>
          match enter limit with
          | none => none
          | some limit => (ofItemTrees? limit items).map array
        | _ => none
      | "Map" =>
        match content with
        | .object members =>
          match enter limit with
          | none => none
          | some limit => (ofMembers? limit members).map ofEntries
        | _ => none
      | "Null" =>
        match content with
        | .null => some null
        | _ => none
      | _ => none
  | _ => none

def ofItemTrees? (limit : Nat) : List Json → Option (List Value)
  | [] => some []
  | item :: items =>
    match ofTree? limit item, ofItemTrees? limit items with
    | some value, some values => some (value :: values)
    | _, _ => none

def ofMembers? (limit : Nat) : List (Option String × Json) → Option (List (String × Value))
  | [] => some []
  | (some key, tree) :: members =>
    match ofTree? limit tree, ofMembers? limit members with
    | some value, some entries => some ((key, value) :: entries)
    | _, _ => none
  | (none, _) :: _ => none

end

/-- The nesting of containers at which reading a value is refused. -/
def nestingLimit : Nat := 128

def ofJson? (json : Json) : Option Value := ofTree? nestingLimit json

end Value

end PropertyGraph
