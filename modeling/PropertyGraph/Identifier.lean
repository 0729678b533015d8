/-!
# Identifiers

A scope numbers its vertices and its relations; a catalog numbers its
descriptors with 64-bit words.  The three kinds of number are never mixed.
-/

namespace PropertyGraph

structure VertexId where
  number : Nat
  deriving DecidableEq

/-- Identity of a relation, that is of an edge or a property, within one scope. -/
structure RelationId where
  number : Nat
  deriving DecidableEq

/-- Identity of a schema descriptor, unique within its kind. -/
structure SchemaId where
  word : UInt64
  deriving DecidableEq

namespace VertexId

def before (first second : VertexId) : Bool := first.number < second.number

def text (id : VertexId) : String := "VertexId(" ++ toString id.number ++ ")"

end VertexId

namespace RelationId

def before (first second : RelationId) : Bool := first.number < second.number

def text (id : RelationId) : String := "RelationId(" ++ toString id.number ++ ")"

end RelationId

namespace SchemaId

def number (id : SchemaId) : Nat := id.word.toNat

/-- The id with the given number, if it fits a 64-bit word. -/
def ofNumber? (number : Nat) : Option SchemaId :=
  if number < UInt64.size then some ⟨.ofNat number⟩ else none

/-- The largest word, which no descriptor may carry: its successor does not exist. -/
def last : SchemaId := ⟨.ofNat (UInt64.size - 1)⟩

def text (id : SchemaId) : String := "SchemaId(" ++ toString id.number ++ ")"

theorem ext_number {first second : SchemaId} (same : first.number = second.number) :
    first = second := by
  cases first
  cases second
  exact congrArg SchemaId.mk (UInt64.toNat_inj.1 same)

theorem number_lt (id : SchemaId) : id.number < UInt64.size := UInt64.toNat_lt_size id.word

@[simp] theorem ofNumber?_number (id : SchemaId) : ofNumber? id.number = some id := by
  unfold ofNumber?
  rw [if_pos (number_lt id)]
  simp [number]

end SchemaId

end PropertyGraph
