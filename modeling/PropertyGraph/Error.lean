import PropertyGraph.Schema.Descriptor

/-!
# Errors

A `GraphError` is a request that cannot be met.  A `Violation` is a broken
promise between the index of a vertex and the relations it refers to; no
operation of a scope leads to one.  `message` gives the wording of each.
-/

namespace PropertyGraph

/-- Why a configuration could not be had. -/
inductive ConfigFault where
  | idOutOfRange (kind : Kind) (id : SchemaId)
  | unsupportedFormat (extension : Option String)
  | unreadable
  | malformed
  deriving DecidableEq

def ConfigFault.message : ConfigFault → String
  | idOutOfRange kind id => kind.text ++ " id out of range: " ++ toString id.number
  | unsupportedFormat extension =>
    "unsupported config format: " ++ extension.getD "<none>"
  | unreadable => "the file cannot be read"
  | malformed => "the text is no configuration"

/-- A request that cannot be met. -/
inductive GraphError where
  | unknownType (kind : Kind) (name : String)
  | schemaMismatch (key : String) (expected : DataType) (found : String)
  /-- The kind has a descriptor of that name or id already. -/
  | typeAlreadyExists (kind : Kind) (name : String)
  | vertexNotFound (id : VertexId)
  | relationNotFound (id : RelationId)
  | config (fault : ConfigFault)
  deriving DecidableEq

def GraphError.message : GraphError → String
  | unknownType kind name => "Unknown " ++ kind.text ++ ": " ++ name
  | schemaMismatch key expected found =>
    "Value of type " ++ found ++ " does not match data type " ++ expected.name ++
      " of property key " ++ key
  | typeAlreadyExists kind name => kind.text ++ " already exists: " ++ name
  | vertexNotFound id => "Vertex " ++ id.text ++ " not found"
  | relationNotFound id => "Relation " ++ id.text ++ " not found"
  | config fault => "Configuration error: " ++ fault.message

/-- A broken promise inside a scope. -/
inductive Violation where
  | vanishedVertex (vertex : VertexId)
  | missingVertex (vertex : VertexId)
  | foreignRelation (vertex : VertexId) (relation : RelationId)
  | unindexedRelation (relation : RelationId) (vertex : VertexId)
  | edgeWithoutSide (relation : RelationId)
  | loopProperty (relation : RelationId)
  deriving DecidableEq

def Violation.message (violation : Violation) : String :=
  "invariant violation: " ++
    match violation with
    | vanishedVertex vertex => "vertex " ++ vertex.text ++ " vanished during mutation"
    | missingVertex vertex => "handle to missing vertex " ++ vertex.text
    | foreignRelation vertex relation =>
      "index of vertex " ++ vertex.text ++ " references foreign relation " ++ relation.text
    | unindexedRelation relation vertex =>
      "relation " ++ relation.text ++ " missing from index of vertex " ++ vertex.text
    | edgeWithoutSide relation => "edge " ++ relation.text ++ " indexed without a concrete side"
    | loopProperty relation => "property " ++ relation.text ++ " flagged as loop"

/-- Why an operation on a scope had no result. -/
inductive Failure where
  | error (cause : GraphError)
  | violation (breach : Violation)
  deriving DecidableEq

def Failure.message : Failure → String
  | error cause => cause.message
  | violation breach => breach.message

end PropertyGraph
