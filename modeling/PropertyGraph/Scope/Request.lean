import PropertyGraph.Scope.Basic

/-!
# Requests to a scope

Every operation that changes a scope as one datum, so that sequences of them
can be run and compared.
-/

namespace PropertyGraph

namespace Scope

inductive Request where
  | addVertex
  | addVertexWithLabel (name : String)
  | addEdge (source : VertexId) (label : String) (target : VertexId)
  | addEdgeWithLabel (source : VertexId) (label : EdgeLabel) (target : VertexId)
  | addProperty (owner : VertexId) (key : String) (value : Value)
  | addPropertyWithKey (owner : VertexId) (key : PropertyKey) (value : Value)
  | removeRelation (id : RelationId)
  | commit
  | rollback

inductive Answer where
  | vertex (id : VertexId)
  | edge (edge : Edge)
  | property (property : Property)
  | relation (relation : Relation)
  | modified (count : Nat)

def serve (scope : Scope) (catalog : Catalog) : Request → Outcome Answer
  | .addVertex => (scope.addVertex catalog).map .vertex
  | .addVertexWithLabel name => (scope.addVertexWithLabel catalog name).map .vertex
  | .addEdge source label target => (scope.addEdge catalog source label target).map .edge
  | .addEdgeWithLabel source label target =>
    (scope.addEdgeWithLabel catalog source label target).map .edge
  | .addProperty owner key value => (scope.addProperty catalog owner key value).map .property
  | .addPropertyWithKey owner key value =>
    (scope.addPropertyWithKey catalog owner key value).map .property
  | .removeRelation id => (scope.removeRelation catalog id).map .relation
  | .commit => ⟨.ok (.modified scope.commit.1), scope.commit.2, catalog⟩
  | .rollback => ⟨.ok (.modified scope.rollback.1), scope.rollback.2, catalog⟩

end Scope

end PropertyGraph
