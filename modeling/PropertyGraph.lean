import PropertyGraph.Binary64
import PropertyGraph.Catalog.Basic
import PropertyGraph.Catalog.Directory
import PropertyGraph.Catalog.Json
import PropertyGraph.Catalog.Request
import PropertyGraph.Config
import PropertyGraph.Config.File
import PropertyGraph.Config.Json
import PropertyGraph.Config.Yaml
import PropertyGraph.Decimal
import PropertyGraph.Demo
import PropertyGraph.Direction
import PropertyGraph.Error
import PropertyGraph.Identifier
import PropertyGraph.Incidence.Filter
import PropertyGraph.Incidence.Index
import PropertyGraph.Json.Basic
import PropertyGraph.Json.Parser
import PropertyGraph.Json.Printer
import PropertyGraph.Json.Record
import PropertyGraph.Main
import PropertyGraph.Query
import PropertyGraph.Relation
import PropertyGraph.Schema.DataType
import PropertyGraph.Schema.Descriptor
import PropertyGraph.Scope.Arena
import PropertyGraph.Scope.Basic
import PropertyGraph.Scope.Reading
import PropertyGraph.Scope.Request
import PropertyGraph.Slots
import PropertyGraph.Value
import PropertyGraph.Value.Json
import PropertyGraph.Value.Text
import PropertyGraph.Workspace
import PropertyGraph.Yaml.Block
import PropertyGraph.Yaml.Cursor
import PropertyGraph.Yaml.Names
import PropertyGraph.Yaml.Node
import PropertyGraph.Yaml.Scalar
import PropertyGraph.Yaml.Tag
import PropertyGraph.Yaml.Token
import PropertyGraph.Proofs.Arena.Change
import PropertyGraph.Proofs.Arena.Commutation
import PropertyGraph.Proofs.Arena.Consistent
import PropertyGraph.Proofs.Arena.Degree
import PropertyGraph.Proofs.Arena.Edit
import PropertyGraph.Proofs.Arena.Entries
import PropertyGraph.Proofs.Arena.Marks
import PropertyGraph.Proofs.Arena.Registration
import PropertyGraph.Proofs.Arena.Reversal
import PropertyGraph.Proofs.Arena.Unnumbered
import PropertyGraph.Proofs.Catalog.Acceptance
import PropertyGraph.Proofs.Catalog.Creation
import PropertyGraph.Proofs.Catalog.Directory
import PropertyGraph.Proofs.Catalog.Growth
import PropertyGraph.Proofs.Catalog.Interning
import PropertyGraph.Proofs.Catalog.Json
import PropertyGraph.Proofs.Catalog.Namespace
import PropertyGraph.Proofs.Catalog.Naming
import PropertyGraph.Proofs.Catalog.Part
import PropertyGraph.Proofs.Catalog.Resolution
import PropertyGraph.Proofs.Catalog.Restoration
import PropertyGraph.Proofs.Catalog.View
import PropertyGraph.Proofs.Config.Json
import PropertyGraph.Proofs.Incidence.Counting
import PropertyGraph.Proofs.Incidence.Log
import PropertyGraph.Proofs.Json.Number
import PropertyGraph.Proofs.Json.Quoted
import PropertyGraph.Proofs.Json.Record
import PropertyGraph.Proofs.Json.Roundtrip
import PropertyGraph.Proofs.Query.Adjacency
import PropertyGraph.Proofs.Query.Constraint
import PropertyGraph.Proofs.Query.Descriptor
import PropertyGraph.Proofs.Query.Listing
import PropertyGraph.Proofs.Query.Named
import PropertyGraph.Proofs.Query.Partition
import PropertyGraph.Proofs.Query.Reference
import PropertyGraph.Proofs.Query.Scan
import PropertyGraph.Proofs.Scope.Agreement
import PropertyGraph.Proofs.Scope.Cardinality
import PropertyGraph.Proofs.Scope.Effect
import PropertyGraph.Proofs.Scope.Failure
import PropertyGraph.Proofs.Scope.Removal
import PropertyGraph.Proofs.Scope.Resolution
import PropertyGraph.Proofs.Scope.Response
import PropertyGraph.Proofs.Scope.Retirement
import PropertyGraph.Proofs.Scope.Reversal
import PropertyGraph.Proofs.Scope.Rollback
import PropertyGraph.Proofs.Scope.Soundness
import PropertyGraph.Proofs.Scope.Storing
import PropertyGraph.Proofs.Scope.Succession
import PropertyGraph.Proofs.Scope.Touching
import PropertyGraph.Proofs.Scope.Typing
import PropertyGraph.Proofs.Slots
import PropertyGraph.Proofs.Value.Entries
import PropertyGraph.Proofs.Value.Equality
import PropertyGraph.Proofs.Value.Equivalence
import PropertyGraph.Proofs.Value.Json
import PropertyGraph.Proofs.Value.Reflexivity
import PropertyGraph.Proofs.Workspace.Adjacency
import PropertyGraph.Proofs.Workspace.Cardinality
import PropertyGraph.Proofs.Workspace.Commutation
import PropertyGraph.Proofs.Workspace.Constraint
import PropertyGraph.Proofs.Workspace.Creation
import PropertyGraph.Proofs.Workspace.Degree
import PropertyGraph.Proofs.Workspace.Descriptor
import PropertyGraph.Proofs.Workspace.Failure
import PropertyGraph.Proofs.Workspace.Growth
import PropertyGraph.Proofs.Workspace.Identity
import PropertyGraph.Proofs.Workspace.Interleaving
import PropertyGraph.Proofs.Workspace.Isolation
import PropertyGraph.Proofs.Workspace.Listing
import PropertyGraph.Proofs.Workspace.Modification
import PropertyGraph.Proofs.Workspace.Naming
import PropertyGraph.Proofs.Workspace.Partition
import PropertyGraph.Proofs.Workspace.Refinement
import PropertyGraph.Proofs.Workspace.Refusal
import PropertyGraph.Proofs.Workspace.Registration
import PropertyGraph.Proofs.Workspace.Restoration
import PropertyGraph.Proofs.Workspace.Reread
import PropertyGraph.Proofs.Workspace.Retirement
import PropertyGraph.Proofs.Workspace.Reversal
import PropertyGraph.Proofs.Workspace.Rollback
import PropertyGraph.Proofs.Workspace.Run
import PropertyGraph.Proofs.Workspace.Safety
import PropertyGraph.Proofs.Workspace.Typing
