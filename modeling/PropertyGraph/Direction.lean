/-!
# Directions

A direction is relative to one endpoint of an edge.  `outgoing` and `incoming`
are the two sides of an edge; `both` admits either side and is no side itself.
-/

namespace PropertyGraph

/-- The edges of a vertex that a request ranges over. -/
inductive Direction where
  | outgoing
  | incoming
  | both
  deriving DecidableEq

namespace Direction

/-- Whether an incidence on `side` satisfies the direction. -/
def admits (direction side : Direction) : Bool :=
  match direction with
  | both => true
  | _ => direction = side

/-- The direction seen from the other endpoint. -/
def opposite : Direction → Direction
  | outgoing => incoming
  | incoming => outgoing
  | both => both

def text : Direction → String
  | outgoing => "OUT"
  | incoming => "IN"
  | both => "BOTH"

@[simp] theorem opposite_opposite (direction : Direction) :
    direction.opposite.opposite = direction := by
  cases direction <;> rfl

end Direction

instance : Inhabited Direction := ⟨.both⟩

end PropertyGraph
