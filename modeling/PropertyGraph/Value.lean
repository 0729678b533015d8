import PropertyGraph.Binary64

/-!
# Values

The values that a property can hold.  A map is a list of entries ordered by
key; `Value.ofEntries` builds it from entries in any order, where the last
entry under a key wins.  Equality compares floats as numbers, so it is not
reflexive on values that hold a not-a-number.
-/

namespace PropertyGraph

inductive Value where
  | string (text : String)
  | integer (number : Int64)
  | float (number : Binary64)
  | boolean (flag : Bool)
  | dateTime (milliseconds : Int64)
  | array (items : List Value)
  /-- Entries in ascending order of their keys. -/
  | map (entries : List (String × Value))
  | null

namespace Value

/-- Put an entry into a list ordered by key, in place of an entry with the same key. -/
def insertEntry (key : String) (value : Value) : List (String × Value) → List (String × Value)
  | [] => [(key, value)]
  | (other, held) :: rest =>
    if key = other then (key, value) :: rest
    else if key < other then (key, value) :: (other, held) :: rest
    else (other, held) :: insertEntry key value rest

/-- The map of the given entries, where the last entry under a key wins. -/
def ofEntries (entries : List (String × Value)) : Value :=
  map (entries.foldl (fun ordered (key, value) => insertEntry key value ordered) [])

mutual

/-- Whether two values are equal; values of different variants never are. -/
def equal : Value → Value → Bool
  | string left, string right => left = right
  | integer left, integer right => left = right
  | float left, float right => left.equal right
  | boolean left, boolean right => left = right
  | dateTime left, dateTime right => left = right
  | array left, array right => equalItems left right
  | map left, map right => equalEntries left right
  | null, null => true
  | _, _ => false

def equalItems : List Value → List Value → Bool
  | [], [] => true
  | left :: lefts, right :: rights => equal left right && equalItems lefts rights
  | _, _ => false

def equalEntries : List (String × Value) → List (String × Value) → Bool
  | [], [] => true
  | (key, left) :: lefts, (other, right) :: rights =>
    decide (key = other) && equal left right && equalEntries lefts rights
  | _, _ => false

end

def isNull : Value → Bool
  | null => true
  | _ => false

def isNumeric : Value → Bool
  | integer _ => true
  | float _ => true
  | _ => false

def string? : Value → Option String
  | string text => some text
  | _ => none

def integer? : Value → Option Int64
  | integer number => some number
  | _ => none

def float? : Value → Option Binary64
  | float number => some number
  | _ => none

def boolean? : Value → Option Bool
  | boolean flag => some flag
  | _ => none

def typeName : Value → String
  | string _ => "String"
  | integer _ => "Integer"
  | float _ => "Float"
  | boolean _ => "Boolean"
  | dateTime _ => "DateTime"
  | array _ => "Array"
  | map _ => "Map"
  | null => "Null"

end Value

end PropertyGraph
