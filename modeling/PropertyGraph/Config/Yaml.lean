import PropertyGraph.Config.Json
import PropertyGraph.Yaml.Node

/-!
# Configurations as YAML

A configuration is a mapping in which every field may be missing.  A text
without a document, or with a document that is left out, is the standard
configuration.
-/

namespace PropertyGraph

namespace Yaml.Node

def text? : Node → Option String
  | scalar _ _ text => some text
  | _ => none

/--
The text that stands for a truth value: that of a plain scalar, or of a
literal one with the tag of truth values.
-/
def booleanText? : Node → Option String
  | scalar _ .plain text => some text
  | scalar properties .literal text =>
    if properties.tag.bind Tag.text? = some "tag:yaml.org,2002:bool" then some text else none
  | _ => none

/-- A truth value in lower case, upper case or capitalised. -/
def boolean? (node : Node) : Option Bool :=
  node.booleanText?.bind fun text =>
    if ["true", "True", "TRUE"].contains text then some true
    else if ["false", "False", "FALSE"].contains text then some false
    else none

def isNull : Node → Bool
  | scalar _ .plain text => ["", "null", "Null", "NULL", "~"].contains text
  | _ => false

/-- The word of a tag of one's own, which begins with an exclamation mark. -/
def tagWord? (node : Node) : Option String :=
  match (node.properties.tag.bind Tag.text?).map String.toList with
  | some ('!' :: word) => some (String.ofList word)
  | _ => none

/-- The name of a choice: the word of its tag, with nothing after it, or its text. -/
def choice? (node : Node) : Option String :=
  match node.tagWord? with
  | some word => if node.isNull then some word else none
  | none => node.text?

/--
The pairs of a mapping whose keys are scalars, with every alias replaced by
the node that it stands for; a document that is left out has none.
-/
def fields? (root : Node) : Option (List (String × Node)) :=
  match root with
  | mapping _ pairs => pairs.mapM fun (key, value) => do
    some (← (← root.target? key).text?, ← root.target? value)
  | scalar _ .plain "" => some []
  | _ => none

/-- The value of a field that occurs at most once. -/
def field? (fields : List (String × Node)) (name : String) : Option (Option Node) :=
  match fields.filter fun field => field.1 = name with
  | [] => some none
  | [(_, value)] => some (some value)
  | _ => none

end Yaml.Node

namespace Config

def settingOf? {α : Type} (fields : List (String × Yaml.Node)) (name : String)
    (read? : Yaml.Node → Option α) (standard : α) : Option α :=
  match Yaml.Node.field? fields name with
  | some (some node) => read? node
  | some none => some standard
  | none => none

def ofFields? (fields : List (String × Yaml.Node)) : Option Config := do
  some ⟨← settingOf? fields "auto_schema" Yaml.Node.boolean? standard.autoSchema,
    ← settingOf? fields "default_vertex_label" Yaml.Node.text? standard.vertexLabel,
    ← settingOf? fields "default_data_type" (fun node => node.choice?.bind DataType.ofName?)
      standard.dataType,
    ← settingOf? fields "default_cardinality" (fun node => node.choice?.bind Cardinality.ofName?)
      standard.cardinality⟩

def ofYaml? (text : String) : Option Config := do
  match ← Yaml.Node.ofTokens? (← Yaml.tokens? text) with
  | none => some standard
  | some node => ofFields? (← node.fields?)

end Config

end PropertyGraph
