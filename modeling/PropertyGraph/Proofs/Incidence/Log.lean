import PropertyGraph.Proofs.Incidence.Counting

/-!
# Histories of an index

An index by itself files any entry, also one that no relation of a scope would
have.  Each of its lists is then what is left of the entries accepted into it:
those of relations that were not removed later, in the order of insertion.
-/

namespace PropertyGraph.Index

inductive Step where
  | insertEdge (side : Direction) (entry : Entry)
  | insertProperty (entry : Entry)
  | remove (relation : RelationId)
  deriving DecidableEq

/-- The index after a step; an insertion that is a violation leaves it as it was. -/
def apply (index : Index) : Step → Index
  | .insertEdge side entry =>
    match index.insertEdge side entry with
    | .ok later => later
    | .error _ => index
  | .insertProperty entry =>
    match index.insertProperty entry with
    | .ok later => later
    | .error _ => index
  | .remove relation => (index.remove relation).2

def run (index : Index) (steps : List Step) : Index := steps.foldl apply index

inductive Part where
  | outgoing
  | incoming
  | properties

def part (index : Index) : Part → List Entry
  | .outgoing => index.outgoing
  | .incoming => index.incoming
  | .properties => index.properties

namespace Step

/--
The entry that a step files in a list.  An edge under neither side and a
property that claims to be a loop are filed in none.
-/
def filed : Step → Part → List Entry
  | insertEdge .outgoing entry, .outgoing => [entry]
  | insertEdge .incoming entry, .incoming => [entry]
  | insertProperty entry, .properties => if entry.isLoop then [] else [entry]
  | _, _ => []

end Step

/-- The entries of a history that were accepted into a list and not removed later. -/
def surviving (part : Part) : List Step → List Entry
  | [] => []
  | step :: later =>
    (step.filed part).filter (fun entry => .remove entry.relation ∉ later) ++ surviving part later

/-- A step keeps the entries that it does not remove, and files its own behind them. -/
theorem part_apply (index : Index) (step : Step) (part : Part) :
    (index.apply step).part part =
      (index.part part).filter (fun entry => .remove entry.relation ≠ step) ++ step.filed part := by
  have kept (other : Step) (apart : ∀ relation, .remove relation ≠ other) (listed : List Entry) :
      listed.filter (fun entry => Step.remove entry.relation ≠ other) = listed :=
    List.filter_eq_self.2 fun entry _ => decide_eq_true (apart entry.relation)
  cases step with
  | insertEdge side entry =>
      rw [kept (.insertEdge side entry) fun _ => nofun]
      cases side <;> cases part <;>
        simp [apply, insertEdge, Index.part, Step.filed]
  | insertProperty entry =>
      rw [kept (.insertProperty entry) fun _ => nofun]
      cases loop : entry.isLoop <;> cases part <;>
        simp [apply, insertProperty, Index.part, Step.filed, loop]
  | remove relation =>
      cases part <;> simp [apply, Index.remove, without, Index.part, Step.filed]

/-- After a history a list holds what it held and what was accepted, without what was removed. -/
theorem part_run (index : Index) (steps : List Step) (part : Part) :
    (index.run steps).part part =
      (index.part part).filter (fun entry => .remove entry.relation ∉ steps) ++
        surviving part steps := by
  induction steps generalizing index with
  | nil => simp [run, surviving]
  | cons step later ih =>
      have both : (fun entry : Entry => decide (Step.remove entry.relation ∉ step :: later)) =
          fun entry => decide (Step.remove entry.relation ∉ later) &&
            decide (Step.remove entry.relation ≠ step) := by
        funext entry
        simp [Bool.and_comm]
      calc ((index.apply step).run later).part part
        _ = ((index.apply step).part part).filter (fun entry => .remove entry.relation ∉ later) ++
              surviving part later := ih _
        _ = (index.part part).filter (fun entry => .remove entry.relation ∉ step :: later) ++
              surviving part (step :: later) := by
            rw [part_apply, List.filter_append, List.filter_filter, both, surviving,
              List.append_assoc]

/-- What an index reports and counts is what it holds and lists. -/
structure Accounts (index : Index) : Prop where
  removed : ∀ relation, (index.remove relation).1 =
    (index.outgoing ++ index.incoming ++ index.properties).countP
      fun entry => entry.relation = relation
  gone : ∀ relation, (index.remove relation).2.contains relation = false
  unrestricted : ∀ direction, index.countEdges direction .any = index.edgeCountIn direction
  together : ∀ types, index.countEdges .both types =
    index.countEdges .outgoing types + index.countEdges .incoming types
  outgoing : ∀ types,
    (index.edges .outgoing types).length = index.countEdges .outgoing types
  incoming : ∀ types,
    (index.edges .incoming types).length = index.countEdges .incoming types
  /-- Under both directions the listing falls short of the count by the incoming loops. -/
  both : ∀ types, (index.edges .both types).length +
    index.incoming.countP (fun entry => entry.isLoop && types.admits entry.typeId) =
      index.countEdges .both types

theorem accounts (index : Index) : index.Accounts where
  removed := index.remove_eq_countP
  gone := index.contains_remove
  unrestricted _ := if_pos rfl
  together := index.countEdges_both
  outgoing types := index.length_edges_side types (by decide)
  incoming types := index.length_edges_side types (by decide)
  both := index.length_edges_both

/--
After any history of an index that began empty, each list holds the entries
accepted into it whose relation was not removed later, in the order of
insertion, and the index accounts for them.
-/
theorem history_filtered (steps : List Step) :
    (∀ part, (empty.run steps).part part = surviving part steps) ∧
      (empty.run steps).Accounts := by
  refine ⟨?_, accounts _⟩
  intro part
  have nothing : empty.part part = [] := by cases part <;> rfl
  rw [part_run, nothing]
  rfl

example : surviving .incoming
    [.insertEdge .incoming ⟨⟨1⟩, ⟨0⟩, true⟩, .insertEdge .both ⟨⟨2⟩, ⟨0⟩, false⟩, .remove ⟨1⟩,
      .insertEdge .incoming ⟨⟨1⟩, ⟨4⟩, true⟩, .insertProperty ⟨⟨3⟩, ⟨0⟩, true⟩] =
    [⟨⟨1⟩, ⟨4⟩, true⟩] := by
  decide

end PropertyGraph.Index
