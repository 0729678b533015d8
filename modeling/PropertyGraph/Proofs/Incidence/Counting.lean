import Mathlib.Data.List.Nodup
import PropertyGraph.Incidence.Index

/-!
# Counting entries

A count of edge entries is one sum over the two sides, whether a filter
restricts it or not.  A listing shows the same entries, except that under both
directions an incoming loop is left out.  Removing a relation drops what
counting its entries counts.
-/

namespace PropertyGraph.Index

variable (index : Index)

def entries : List Entry := index.outgoing ++ index.incoming ++ index.properties

/-- Removal reports how many entries the relation had. -/
theorem remove_eq_countP (relation : RelationId) :
    (index.remove relation).1 = index.entries.countP fun entry => entry.relation = relation := by
  have shrinks (listed : List Entry) :
      (listed.filter fun entry => entry.relation ≠ relation).length +
        listed.countP (fun entry => entry.relation = relation) = listed.length := by
    rw [← List.countP_eq_length_filter, Nat.add_comm]
    simpa using (List.length_eq_countP_add_countP
      (fun entry : Entry => decide (entry.relation = relation)) (l := listed)).symm
  have outgoing := shrinks index.outgoing
  have incoming := shrinks index.incoming
  have properties := shrinks index.properties
  simp only [remove, without, size, entries, List.countP_append]
  omega

/-- Nothing of a removed relation is left. -/
theorem contains_remove (relation : RelationId) :
    (index.remove relation).2.contains relation = false := by
  simp [remove, without, contains]

section

variable (direction : Direction) (types : TypeFilter)

/-- The edge entries of a direction: the outgoing ones, then the incoming ones. -/
theorem edges_entries :
    (index.edges direction types).map Prod.snd =
      (if direction.admits .outgoing then
        index.outgoing.filter fun entry => types.admits entry.typeId else []) ++
      (if direction.admits .incoming then
        (index.incoming.filter fun entry => types.admits entry.typeId).filter
          fun entry => direction ≠ .both || !entry.isLoop else []) := by
  have sided (side : Direction) (entries : List Entry) :
      (((entries.map (Prod.mk side)).filter fun filed => types.admits filed.2.typeId).map
        Prod.snd) = entries.filter fun entry => types.admits entry.typeId := by
    simp [List.filter_map, List.map_map, Function.comp_def]
  change ((index.sides direction).filter fun filed => types.admits filed.2.typeId).map
    Prod.snd = _
  simp only [sides, List.filter_append, List.map_append, sided]
  congr 1
  · split <;> rfl
  · split
    next =>
      rw [List.filter_filter, List.filter_filter]
      apply List.filter_congr
      intro entry _
      rw [Bool.and_comm]
    next => rfl

/-- The count of edge entries is one sum, with or without a restriction. -/
theorem countEdges_eq :
    index.countEdges direction types =
      (if direction.admits .outgoing then
        (index.outgoing.filter fun entry => types.admits entry.typeId).length else 0) +
      (if direction.admits .incoming then
        (index.incoming.filter fun entry => types.admits entry.typeId).length else 0) := by
  unfold countEdges
  split
  next unrestricted =>
    subst unrestricted
    cases direction <;> simp [edgeCountIn, edgeCount, Direction.admits]
  next => simp only [List.countP_eq_length_filter]

end

section

variable (types : TypeFilter)

/-- Both directions together count what each of them counts. -/
theorem countEdges_both :
    index.countEdges .both types =
      index.countEdges .outgoing types + index.countEdges .incoming types := by
  simp [countEdges_eq, Direction.admits]

/-- One direction lists what it counts. -/
theorem length_edges_side {direction : Direction} (side : direction ≠ .both) :
    (index.edges direction types).length = index.countEdges direction types := by
  rw [← List.length_map Prod.snd, edges_entries, countEdges_eq, List.length_append]
  cases direction with
  | outgoing => rfl
  | incoming => simp [Direction.admits]
  | both => exact absurd rfl side

/-- Both directions list what they count but for the incoming loops. -/
theorem length_edges_both :
    (index.edges .both types).length +
        index.incoming.countP (fun entry => entry.isLoop && types.admits entry.typeId) =
      index.countEdges .both types := by
  have listed : (index.edges .both types).length =
      (index.outgoing.filter fun entry => types.admits entry.typeId).length +
        (index.incoming.filter fun entry => types.admits entry.typeId).countP
          fun entry => !entry.isLoop := by
    rw [← List.length_map Prod.snd, edges_entries, List.length_append,
      List.countP_eq_length_filter]
    rfl
  have counted : index.countEdges .both types =
      (index.outgoing.filter fun entry => types.admits entry.typeId).length +
        (index.incoming.filter fun entry => types.admits entry.typeId).length :=
    index.countEdges_eq .both types
  have parts : (index.incoming.filter fun entry => types.admits entry.typeId).length =
      (index.incoming.filter fun entry => types.admits entry.typeId).countP Entry.isLoop +
        (index.incoming.filter fun entry => types.admits entry.typeId).countP
          fun entry => !entry.isLoop := by
    simpa using List.length_eq_countP_add_countP Entry.isLoop
  rw [← List.countP_filter, listed, counted, parts]
  omega

end

end PropertyGraph.Index
