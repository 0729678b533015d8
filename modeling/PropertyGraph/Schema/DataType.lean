import PropertyGraph.Value

/-!
# Data types and cardinalities

A property key declares which values it accepts and how many of them a vertex
may hold.  Null is accepted under no data type; a float key also accepts
integers, which are stored as floats.
-/

namespace PropertyGraph

/-- The declared value type of a property key. -/
inductive DataType where
  | object
  | string
  | integer
  /-- Floats and integers; integers are widened. -/
  | float
  | boolean
  | dateTime
  | array
  | map
  deriving DecidableEq

namespace DataType

def all : List DataType := [object, string, integer, float, boolean, dateTime, array, map]

def name : DataType → String
  | object => "Object"
  | string => "String"
  | integer => "Integer"
  | float => "Float"
  | boolean => "Boolean"
  | dateTime => "DateTime"
  | array => "Array"
  | map => "Map"

def ofName? (name : String) : Option DataType := all.find? (·.name = name)

def accepts : DataType → Value → Bool
  | _, .null => false
  | object, _ => true
  | string, .string _ => true
  | integer, .integer _ => true
  | float, value => value.isNumeric
  | boolean, .boolean _ => true
  | dateTime, .dateTime _ => true
  | array, .array _ => true
  | map, .map _ => true
  | _, _ => false

/-- The stored form of an accepted value: integers under a float key become floats. -/
def coerce : DataType → Value → Value
  | float, .integer number => .float (.ofInt number.toInt)
  | _, value => value

@[simp] theorem ofName?_name (dataType : DataType) : ofName? dataType.name = some dataType := by
  cases dataType <;> rfl

@[simp] theorem accepts_null (dataType : DataType) : dataType.accepts .null = false := by
  cases dataType <;> rfl

@[simp] theorem coerce_coerce (dataType : DataType) (value : Value) :
    dataType.coerce (dataType.coerce value) = dataType.coerce value := by
  cases dataType <;> cases value <;> rfl

/-- The stored form of an accepted value is accepted too. -/
theorem accepts_coerce {dataType : DataType} {value : Value}
    (accepted : dataType.accepts value = true) :
    dataType.accepts (dataType.coerce value) = true := by
  cases dataType with
  | float =>
    cases value with
    | integer number => rfl
    | _ => exact accepted
  | _ => exact accepted

/-- An accepted value in its stored form is of the type that the data type is named after. -/
theorem typeName_eq_name {dataType : DataType} {value : Value}
    (accepted : dataType.accepts value = true) (settled : dataType.coerce value = value)
    (declared : dataType ≠ object) : value.typeName = dataType.name := by
  cases dataType with
  | object => exact absurd rfl declared
  | float =>
    cases value with
    | float number => rfl
    | integer number => cases settled
    | _ => cases accepted
  | string =>
    cases value with
    | string text => rfl
    | _ => cases accepted
  | integer =>
    cases value with
    | integer number => rfl
    | _ => cases accepted
  | boolean =>
    cases value with
    | boolean flag => rfl
    | _ => cases accepted
  | dateTime =>
    cases value with
    | dateTime milliseconds => rfl
    | _ => cases accepted
  | array =>
    cases value with
    | array items => rfl
    | _ => cases accepted
  | map =>
    cases value with
    | map entries => rfl
    | _ => cases accepted

end DataType

instance : Inhabited DataType := ⟨.object⟩

/-- How many values a vertex may hold under one property key. -/
inductive Cardinality where
  /-- At most one value; adding replaces it. -/
  | single
  | list
  /-- Any number of values, no two of them equal. -/
  | set
  deriving DecidableEq

namespace Cardinality

def all : List Cardinality := [single, list, set]

def name : Cardinality → String
  | single => "Single"
  | list => "List"
  | set => "Set"

def ofName? (name : String) : Option Cardinality := all.find? (·.name = name)

@[simp] theorem ofName?_name (cardinality : Cardinality) :
    ofName? cardinality.name = some cardinality := by
  cases cardinality <;> rfl

end Cardinality

instance : Inhabited Cardinality := ⟨.single⟩

end PropertyGraph
