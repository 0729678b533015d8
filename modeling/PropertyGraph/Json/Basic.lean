/-!
# JSON trees

A JSON text denotes a tree.  Numbers keep what their literal says, so that a
reader can tell an integer literal from others; objects keep their members in
written order, repeated names included.
-/

namespace PropertyGraph

/-- What a number literal says: `± whole.fraction · 10 ^ exponent`. -/
structure Json.Number where
  negative : Bool
  whole : Nat
  /-- The digits after the point; a literal without a point has none. -/
  fraction : List Char
  exponent : Option Int
  deriving DecidableEq

/--
A JSON tree.  The text of a string is missing if the string is well formed but
holds half of a surrogate pair, so that it denotes no Unicode text.
-/
inductive Json where
  | null
  | boolean (flag : Bool)
  | number (literal : Json.Number)
  | string (text : Option String)
  | array (items : List Json)
  | object (members : List (Option String × Json))

namespace Json

def ofInt (value : Int) : Json := number ⟨value < 0, value.natAbs, [], none⟩

def ofText (text : String) : Json := string (some text)

def ofMembers (members : List (String × Json)) : Json :=
  object (members.map fun (name, value) => (some name, value))

end Json

end PropertyGraph
