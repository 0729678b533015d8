import PropertyGraph.Catalog.Basic

/-!
# Requests to a catalog

Every operation on a catalog as one datum, so that sequences of them can be
run and compared.  `serve` answers a request and gives the catalog after it.
-/

namespace PropertyGraph

namespace Catalog

inductive Request where
  | definePropertyKey (name : String) (dataType : DataType) (cardinality : Cardinality)
  | defineEdgeLabel (name : String)
  | defineVertexLabel (name : String)
  | resolve (kind : Kind) (name : String)
  | resolveOrCreate (kind : Kind) (name : String) (policy : Policy)
  | lookup (kind : Kind) (name : String)
  | byId (kind : Kind) (id : SchemaId)
  | contains (kind : Kind) (name : String)
  | names (kind : Kind)
  | length (kind : Kind)
  | snapshot
  deriving DecidableEq

inductive Answer where
  | descriptor (descriptor : Descriptor)
  | lookup (found : Option Descriptor)
  | truth (holds : Bool)
  | names (names : List String)
  | count (count : Nat)
  | snapshot (snapshot : Snapshot)
  deriving DecidableEq

/-- What a request leads to: its answer or error, and the catalog after it. -/
structure Served where
  answer : Except GraphError Answer
  catalog : Catalog

/-- The answer of a creation, and the grown catalog; a refused creation changes nothing. -/
def Served.ofCreation (catalog : Catalog) {δ : Type} (wrap : δ → Descriptor) :
    Except GraphError (δ × Catalog) → Served
  | .ok (entry, grown) => ⟨.ok (.descriptor (wrap entry)), grown⟩
  | .error error => ⟨.error error, catalog⟩

def serve (catalog : Catalog) : Request → Served
  | .definePropertyKey name dataType cardinality =>
    .ofCreation catalog .propertyKey (catalog.definePropertyKey name dataType cardinality)
  | .defineEdgeLabel name => .ofCreation catalog .edgeLabel (catalog.defineEdgeLabel name)
  | .defineVertexLabel name => .ofCreation catalog .vertexLabel (catalog.defineVertexLabel name)
  | .resolve kind name => .ofCreation catalog id (catalog.resolveOrCreate kind .strict name)
  | .resolveOrCreate kind name policy =>
    .ofCreation catalog id (catalog.resolveOrCreate kind policy name)
  | .lookup kind name => ⟨.ok (.lookup (catalog.lookup? kind name)), catalog⟩
  | .byId kind id => ⟨.ok (.lookup (catalog.byId? kind id)), catalog⟩
  | .contains kind name => ⟨.ok (.truth (catalog.contains kind name)), catalog⟩
  | .names kind => ⟨.ok (.names (catalog.names kind)), catalog⟩
  | .length kind => ⟨.ok (.count (catalog.length kind)), catalog⟩
  | .snapshot => ⟨.ok (.snapshot catalog.snapshot), catalog⟩

def serveAll (catalog : Catalog) : List Request → List (Except GraphError Answer) × Catalog
  | [] => ([], catalog)
  | request :: rest =>
    let served := catalog.serve request
    let (answers, last) := served.catalog.serveAll rest
    (served.answer :: answers, last)

end Catalog

end PropertyGraph
