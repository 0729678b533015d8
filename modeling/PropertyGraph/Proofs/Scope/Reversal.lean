import PropertyGraph.Proofs.Arena.Reversal
import PropertyGraph.Proofs.Catalog.Creation
import PropertyGraph.Proofs.Scope.Removal
import PropertyGraph.Proofs.Scope.Resolution
import PropertyGraph.Proofs.Scope.Rollback

/-!
# Removing what was added

A relation that was added and takes no other's place is removed again by its
id, and then the scope reads as before.  Marks, the next relation number and
perhaps one new descriptor are what is left of it.
-/

namespace PropertyGraph

namespace Arena

/-- Marks and a number passed over change nothing of the graph. -/
theorem SameGraph.mark_skip (arena : Arena) (ids : List VertexId) :
    (arena.mark ids).skipRelation.SameGraph arena where
  vertex? id := congrArg (fun unmarked => unmarked.vertices.get? id.number) (arena.unmark_mark ids)
  vertices := congrArg (fun unmarked => unmarked.vertices.live) (arena.unmark_mark ids)
  relation? id := Slots.get?_resize arena.relations (Nat.le_succ _) id.number
  relations := Slots.live_resize arena.relations (Nat.le_succ _)
  vertexCount := rfl
  relationCount := rfl

/-- A value that is stored as a new property, in no other's place, is attached. -/
theorem Consistent.storeNamed_eq_attach {arena : Arena} (consistent : arena.Consistent)
    {owner : VertexId} {key : PropertyKey} {value : Value}
    {property : Property} (stored : (arena.storeNamed owner key value).1 = property)
    (new : arena.relation? property.id = none)
    (alone : property.key.cardinality = .single →
      arena.held property.owner property.key.name = []) :
    arena.storeNamed owner key value =
      (⟨⟨arena.relations.next⟩, key, owner, value⟩,
        arena.attach (.property ⟨⟨arena.relations.next⟩, key, owner, value⟩)) := by
  subst stored
  cases cardinality : key.cardinality with
  | single =>
      simp only [storeNamed, cardinality, forall_const] at alone
      simp only [storeNamed, cardinality, alone]
      rfl
  | list => simp only [storeNamed, cardinality]
  | set =>
      cases equal : (arena.held owner key.name).find? fun property =>
          property.value.equal value with
      | none => simp only [storeNamed, cardinality, equal]
      | some found =>
          have live := List.mem_of_mem_filter (List.mem_of_find?_eq_some equal)
          simp only [storeNamed, cardinality, equal] at new
          rw [consistent.mem_liveProperties_iff.1 live] at new
          cases new

end Arena

namespace Scope

variable {scope later : Scope} {catalog grown : Catalog} {request : Request} {answer : Answer}
  {relation : Relation}

/-- The answer is a relation that is new in the scope and takes no other's place. -/
inductive AddsRelation (scope : Scope) : Answer → Relation → Prop where
  | edge (edge : Edge) : AddsRelation scope (.edge edge) (.edge edge)
  | property (property : Property) (new : scope.arena.relation? property.id = none)
      (alone : property.key.cardinality = .single →
        scope.arena.held property.owner property.key.name = []) :
      AddsRelation scope (.property property) (.property property)

/-- What is left of a relation that was added to a scope and removed again. -/
structure Undone (scope : Scope) (catalog : Catalog) (relation : Relation) (last : Scope)
    (lastCatalog : Catalog) : Prop where
  reads : last.ReadsAs lastCatalog scope catalog
  remains : last = { scope with
    arena := (scope.arena.mark relation.endpoints).skipRelation }
  registered : lastCatalog = catalog ∨
    ∃ kind descriptor, catalog.Gains kind descriptor lastCatalog

section

variable (sound : scope.Sound catalog) (catalogSound : catalog.Sound)
  (added : scope.serve catalog request = ⟨.ok answer, later, grown⟩)
  (adds : scope.AddsRelation answer relation)
include sound catalogSound added adds

/-- A new relation that takes no other's place is attached under the next number. -/
theorem Sound.attached_of_added : relation.id.number = scope.arena.relations.next ∧
    later = { scope with arena := scope.arena.attach relation } := by
  have response := sound.serve_response catalogSound request
  rw [added] at response
  cases response with
  | connect live connects =>
      cases adds
      exact ⟨rfl, rfl⟩
  | @store _ owner key value _ live stores accepted =>
      cases adds with
      | property _ new alone =>
          have stored := sound.arena.storeNamed_eq_attach rfl new alone
          rw [stored]
          exact ⟨rfl, rfl⟩
  | addVertex adding => cases adds
  | release found => cases adds
  | commit => cases adds
  | rollback => cases adds

/-- Removing what was added is answered with it, and undoes the addition. -/
theorem Sound.removal_undoes :
    ∃ last, later.serve grown (.removeRelation relation.id) =
        ⟨.ok (.relation relation), last, grown⟩ ∧
      scope.Undone catalog relation last grown := by
  obtain ⟨numbered, attached⟩ := sound.attached_of_added catalogSound added adds
  obtain ⟨leads, laterSound⟩ := sound.serve catalogSound request
  have resolves := sound.serve_resolves catalogSound request
  rw [added] at leads laterSound resolves
  have found : later.arena.relation? relation.id = some relation := by
    rw [attached]
    exact Arena.relation?_attach numbered
  obtain ⟨answered, left⟩ := removal_of_relation? found
  have removed := laterSound.serve_removal relation.id
  have lastSound := (laterSound.serve leads.sound (.removeRelation relation.id)).2
  have remains : later.without [relation.id] =
      { scope with arena := (scope.arena.mark relation.endpoints).skipRelation } := by
    rw [left, attached, ← sound.arena.release_attach numbered]
  rw [removed] at lastSound
  rw [answered] at removed
  refine ⟨_, removed, ?_, remains, resolves.eq_or_gains catalogSound⟩
  have same : (later.without [relation.id]).arena.SameGraph scope.arena := by
    rw [remains]
    exact .mark_skip scope.arena relation.endpoints
  exact readsAs same lastSound.arena leads.sound sound.arena catalogSound

end

end Scope

end PropertyGraph
