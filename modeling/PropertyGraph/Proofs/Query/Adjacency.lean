import PropertyGraph.Proofs.Query.Listing

/-!
# Neighbours seen from both ends

The vertices that a query lists are the targets of the edges that start at its
vertex and the sources of those that end there.  How often a vertex is among
them is the number of live edges that join the two, each of them once, and this
number does not depend on which of the two is asked.
-/

namespace PropertyGraph

/-- What passes one of two tests passes the first, or the second but not the first. -/
theorem countP_or {α : Type} (first second : α → Bool) (list : List α) :
    list.countP (fun a => first a || second a) =
      list.countP first + list.countP fun a => second a && !first a := by
  rw [list.countP_eq_countP_filter_add _ first, List.countP_filter, List.countP_filter]
  congr 2
  · funext a
    cases first a <;> simp
  · funext a
    cases first a <;> simp

namespace Edge

/-- Whether the edge leads from the near vertex to the far one, looking in a direction. -/
def joins (edge : Edge) (direction : Direction) (near far : VertexId) : Bool :=
  match direction with
  | .outgoing => edge.startsFrom near && edge.endsAt far
  | .incoming => edge.startsFrom far && edge.endsAt near
  | .both => (edge.startsFrom near && edge.endsAt far) || (edge.startsFrom far && edge.endsAt near)

/-- An edge that joins two vertices joins them also when seen from the other end. -/
theorem joins_opposite (edge : Edge) (direction : Direction) (near far : VertexId) :
    edge.joins direction.opposite far near = edge.joins direction near far := by
  cases direction with
  | outgoing => rfl
  | incoming => rfl
  | both => exact Bool.or_comm _ _

/-- Of the edges back from the far vertex the loops are those that also lead there. -/
theorem isLoop_of_back {edge : Edge} {near far : VertexId} (starts : edge.source = far)
    (ends : edge.target = near) : edge.isLoop = (edge.startsFrom near && edge.endsAt far) := by
  subst starts ends
  rw [Bool.eq_iff_iff]
  simp [isLoop, startsFrom, endsAt, eq_comm]

end Edge

namespace Query

/-- The same question asked of another vertex in the opposite direction. -/
def backFrom (query : Query) (vertex : VertexId) : Query :=
  { query with vertex := vertex, direction := query.direction.opposite }

def joining (query : Query) (arena : Arena) (other : VertexId) : List Edge :=
  arena.liveEdges.filter fun edge =>
    edge.joins query.direction query.vertex other && query.meansLabel edge.label

/-- The vertices across the matching edges: targets of outgoing ones, sources of incoming ones. -/
def across (query : Query) (arena : Arena) : List VertexId :=
  (query.outgoing arena).map Edge.target ++ (query.incoming arena).map Edge.source

theorem joining_backFrom (query : Query) (arena : Arena) (other : VertexId) :
    (query.backFrom other).joining arena query.vertex = query.joining arena other := by
  apply List.filter_congr
  intro edge _
  exact congrArg (· && query.meansLabel edge.label)
    (edge.joins_opposite query.direction query.vertex other)

section

variable (query : Query) (arena : Arena) (other : VertexId)

/-- Of the edges that start at the vertex, those that lead to the other one. -/
theorem count_targets :
    ((query.starting arena).map Edge.target).count other =
      arena.liveEdges.countP fun edge =>
        (edge.startsFrom query.vertex && edge.endsAt other) && query.meansLabel edge.label := by
  rw [List.count_eq_countP, List.countP_map, starting, List.countP_filter]
  apply List.countP_congr
  intro edge _
  simp only [Function.comp_apply, beq_eq_decide, Edge.startsFrom, Edge.endsAt, Bool.and_eq_true]
  tauto

/-- Of the edges that end at the vertex, those that come from the other one. -/
theorem count_sources :
    ((query.ending arena).map Edge.source).count other =
      arena.liveEdges.countP fun edge =>
        (edge.startsFrom other && edge.endsAt query.vertex) && query.meansLabel edge.label := by
  rw [List.count_eq_countP, List.countP_map, ending, List.countP_filter]
  apply List.countP_congr
  intro edge _
  simp only [Function.comp_apply, beq_eq_decide, Edge.startsFrom, Edge.endsAt, Bool.and_eq_true]
  tauto

/-- Without the loops, the edges from the other vertex are those that do not also lead there. -/
theorem count_sources_unlooped :
    (((query.ending arena).filter fun edge => !edge.isLoop).map Edge.source).count other =
      arena.liveEdges.countP fun edge =>
        ((edge.startsFrom other && edge.endsAt query.vertex) && query.meansLabel edge.label) &&
          !((edge.startsFrom query.vertex && edge.endsAt other) &&
            query.meansLabel edge.label) := by
  rw [List.count_eq_countP, List.countP_map, List.countP_filter, ending, List.countP_filter]
  apply List.countP_congr
  intro edge _
  by_cases back : edge.source = other ∧ edge.target = query.vertex
  · obtain ⟨starts, ends⟩ := back
    rw [Edge.isLoop_of_back starts ends]
    cases query.meansLabel edge.label <;> simp [Edge.startsFrom, Edge.endsAt, starts, ends]
  · simp only [Function.comp_apply, beq_eq_decide, Edge.startsFrom, Edge.endsAt, Bool.and_eq_true,
      decide_eq_true_eq]
    tauto

/-- A vertex is across as often as live edges join it with the queried one. -/
theorem count_across : (query.across arena).count other = (query.joining arena other).length := by
  rw [across, List.count_append, joining, ← List.countP_eq_length_filter]
  cases direction : query.direction with
  | outgoing =>
      have outgoing : query.outgoing arena = query.starting arena := by
        simp [Query.outgoing, direction, Direction.admits]
      have incoming : query.incoming arena = [] := by
        simp [Query.incoming, direction, Direction.admits]
      rw [outgoing, incoming, count_targets]
      rfl
  | incoming =>
      have outgoing : query.outgoing arena = [] := by
        simp [Query.outgoing, direction, Direction.admits]
      have incoming : query.incoming arena = query.ending arena := by
        simp [Query.incoming, direction, Direction.admits]
      rw [outgoing, incoming, count_sources]
      exact Nat.zero_add _
  | both =>
      have outgoing : query.outgoing arena = query.starting arena := by
        simp [Query.outgoing, direction, Direction.admits]
      have incoming : query.incoming arena =
          (query.ending arena).filter fun edge => !edge.isLoop := by
        simp [Query.incoming, direction, Direction.admits]
      rw [outgoing, incoming, count_targets, count_sources_unlooped, ← countP_or]
      congr 1
      funext edge
      exact (Bool.and_or_distrib_right ..).symm

end

end Query

end PropertyGraph
