import PropertyGraph.Config
import PropertyGraph.Scope.Arena

/-!
# Scopes

A scope is a graph that one writer changes.  Committing keeps the changes made
since the last commit, rolling back discards them; ids handed out in a
discarded part stay retired.  A scope resolves names in a catalog that it
shares with other scopes, so every operation takes the catalog and gives the
catalog after it; a failed operation gives both states too.
-/

namespace PropertyGraph

/-- A graph under change. -/
structure Scope where
  config : Config
  defaultLabel : VertexLabel
  arena : Arena
  /-- The arena as of the last commit. -/
  checkpoint : Option Arena

/-- What an operation leads to: its result or failure, and the scope and catalog after it. -/
structure Outcome (α : Type) where
  result : Except Failure α
  scope : Scope
  catalog : Catalog

def Outcome.map {α β : Type} (change : α → β) (outcome : Outcome α) : Outcome β :=
  ⟨outcome.result.map change, outcome.scope, outcome.catalog⟩

namespace Scope

/-- Open a scope; its default vertex label is created even under a strict policy. -/
def start (config : Config) (catalog : Catalog) : Except GraphError (Scope × Catalog) :=
  (catalog.vertexLabel { config.policy with autoCreate := true } config.vertexLabel).map
    fun (label, grown) => (⟨config, label, .fresh, none⟩, grown)

def containsVertex (scope : Scope) (id : VertexId) : Bool := (scope.arena.vertex? id).isSome

/-- The operation fails and changes nothing of the scope. -/
def refuse {α : Type} (scope : Scope) (catalog : Catalog) (error : GraphError) : Outcome α :=
  ⟨.error (.error error), scope, catalog⟩

/-- The operation ends with a changed arena, or with a violation and the scope as it was. -/
def conclude {α : Type} (scope : Scope) (catalog : Catalog) :
    Except Violation (α × Arena) → Outcome α
  | .ok (result, arena) => ⟨.ok result, { scope with arena := arena }, catalog⟩
  | .error violation => ⟨.error (.violation violation), scope, catalog⟩

def addVertex (scope : Scope) (catalog : Catalog) : Outcome VertexId :=
  scope.conclude catalog (.ok (scope.arena.addVertex scope.defaultLabel))

def addVertexWithLabel (scope : Scope) (catalog : Catalog) (name : String) : Outcome VertexId :=
  match catalog.vertexLabel scope.config.policy name with
  | .error error => scope.refuse catalog error
  | .ok (label, grown) => scope.conclude grown (.ok (scope.arena.addVertex label))

/-- The first of the given vertices that is not live. -/
def missing? (scope : Scope) (vertices : List VertexId) : Option VertexId :=
  vertices.find? fun vertex => !scope.containsVertex vertex

def addEdge (scope : Scope) (catalog : Catalog) (source : VertexId) (name : String)
    (target : VertexId) : Outcome Edge :=
  match scope.missing? [source, target] with
  | some vertex => scope.refuse catalog (.vertexNotFound vertex)
  | none =>
    match catalog.edgeLabel scope.config.policy name with
    | .error error => scope.refuse catalog error
    | .ok (label, grown) => scope.conclude grown (scope.arena.attachEdge source label target)

/-- Add an edge whose label is given by a descriptor that the catalog knows. -/
def addEdgeWithLabel (scope : Scope) (catalog : Catalog) (source : VertexId) (label : EdgeLabel)
    (target : VertexId) : Outcome Edge :=
  match scope.missing? [source, target] with
  | some vertex => scope.refuse catalog (.vertexNotFound vertex)
  | none =>
    match catalog.edgeLabels.matching? label.id label.name with
    | none => scope.refuse catalog (.unknownType .edgeLabel label.name)
    | some known => scope.conclude catalog (scope.arena.attachEdge source known target)

/--
Store a value under a known key, as the key's cardinality says: a single value
replaces the others, a list takes every value, and a set answers with the
first equal value if there is one.
-/
def storeValue (arena : Arena) (owner : VertexId) (key : PropertyKey) (value : Value) :
    Except Violation (Property × Arena) :=
  let held := arena.propertyIds owner key.id
  match key.cardinality with
  | .single =>
    match arena.detachAll held with
    | .error violation => .error violation
    | .ok cleared => cleared.attachProperty owner key value
  | .set =>
    match (held.filterMap arena.property?).find? fun property => property.value.equal value with
    | some property => .ok (property, arena)
    | none => arena.attachProperty owner key value
  | .list => arena.attachProperty owner key value

/-- Store a value under a known key, if the key's data type accepts it. -/
def addValue (scope : Scope) (catalog : Catalog) (owner : VertexId) (key : PropertyKey)
    (value : Value) : Outcome Property :=
  if key.dataType.accepts value then
    scope.conclude catalog (storeValue scope.arena owner key (key.dataType.coerce value))
  else scope.refuse catalog (.schemaMismatch key.name key.dataType value.typeName)

def addProperty (scope : Scope) (catalog : Catalog) (owner : VertexId) (name : String)
    (value : Value) : Outcome Property :=
  match scope.missing? [owner] with
  | some vertex => scope.refuse catalog (.vertexNotFound vertex)
  | none =>
    match catalog.propertyKey scope.config.policy name with
    | .error error => scope.refuse catalog error
    | .ok (key, grown) => scope.addValue grown owner key value

def addPropertyWithKey (scope : Scope) (catalog : Catalog) (owner : VertexId) (key : PropertyKey)
    (value : Value) : Outcome Property :=
  match scope.missing? [owner] with
  | some vertex => scope.refuse catalog (.vertexNotFound vertex)
  | none =>
    match catalog.propertyKeys.matching? key.id key.name with
    | none => scope.refuse catalog (.unknownType .propertyKey key.name)
    | some known => scope.addValue catalog owner known value

def removeRelation (scope : Scope) (catalog : Catalog) (id : RelationId) : Outcome Relation :=
  match scope.arena.detach id with
  | .error violation => scope.conclude catalog (.error violation)
  | .ok none => scope.refuse catalog (.relationNotFound id)
  | .ok (some detached) => scope.conclude catalog (.ok detached)

/-- Keep the changes; the answer is the number of vertices that were modified. -/
def commit (scope : Scope) : Nat × Scope :=
  let kept := scope.arena.unmark
  (scope.arena.modifiedVertices.length, { scope with arena := kept, checkpoint := some kept })

/-- Return to the last commit; the answer is the number of vertices that were modified. -/
def rollback (scope : Scope) : Nat × Scope :=
  let restored := ((scope.checkpoint.getD .fresh).withSlotsOf scope.arena).unmark
  (scope.arena.modifiedVertices.length, { scope with arena := restored })

end Scope

end PropertyGraph
