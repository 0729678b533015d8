import PropertyGraph.Catalog.Basic

/-!
# Configurations

The settings of a scope.  Every setting has a standard value, so that a
configuration may leave any of them out.
-/

namespace PropertyGraph

structure Config where
  autoSchema : Bool
  /-- The label of vertices that are added without one. -/
  vertexLabel : String
  dataType : DataType
  cardinality : Cardinality
  deriving DecidableEq

namespace Config

/-- The settings that hold when nothing else is said. -/
def standard : Config := ⟨true, standardVertexLabel, default, default⟩

def strict : Config := { standard with autoSchema := false }

def policy (config : Config) : Policy := ⟨config.autoSchema, config.dataType, config.cardinality⟩

end Config

end PropertyGraph
