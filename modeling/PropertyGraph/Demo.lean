import PropertyGraph.Catalog.Request
import PropertyGraph.Config.File
import PropertyGraph.Scope.Reading
import PropertyGraph.Scope.Request

/-!
# The demonstration

A tour of a small social graph: three people, their properties and edges, a
value that is refused, and a commit.  What it prints is a function of the
configuration; an error ends it after the lines written so far.
-/

namespace PropertyGraph.Demo

def version : String := "0.1.0"

/-- Why a demonstration ended early. -/
inductive Stop where
  | error (cause : GraphError)
  | violation (breach : Violation)

def Stop.message : Stop → String
  | error cause => cause.message
  | violation breach => breach.message

def Stop.ofFailure : Failure → Stop
  | .error cause => error cause
  | .violation breach => violation breach

/-- What a demonstration prints, and what ended it early. -/
structure Transcript where
  lines : List String
  stop : Option Stop

def Transcript.output (transcript : Transcript) : String :=
  String.join (transcript.lines.map (· ++ "\n"))

/-- The exit code: one if the demonstration ended early. -/
def Transcript.exitCode (transcript : Transcript) : Nat := if transcript.stop.isSome then 1 else 0

structure Tour where
  catalog : Catalog
  scope : Scope
  lines : List String

inductive Event where
  | perform (request : Scope.Request)
  | attempt (request : Scope.Request)
  | say (line : String)

def Tour.serve (tour : Tour) (request : Scope.Request) : Except Failure Scope.Answer × Tour :=
  let outcome := tour.scope.serve tour.catalog request
  (outcome.result, { tour with catalog := outcome.catalog, scope := outcome.scope })

def Tour.say (tour : Tour) (line : String) : Tour := { tour with lines := tour.lines ++ [line] }

def Tour.play (tour : Tour) : List Event → Tour × Option Failure
  | [] => (tour, none)
  | .say line :: rest => (tour.say line).play rest
  | .perform request :: rest =>
    match tour.serve request with
    | (.ok _, changed) => changed.play rest
    | (.error failure, changed) => (changed, some failure)
  | .attempt request :: rest =>
    match tour.serve request with
    | (.error failure, changed) => (changed.say ("✗ Rejected: " ++ failure.message)).play rest
    | (.ok _, changed) => (changed.say "✗ Expected a schema mismatch").play rest

def banner : List String :=
  ["Vertexgraph v" ++ version, "==========================================", ""]

def title (config : Config) : String :=
  "=== Social Graph (auto_schema = " ++ (if config.autoSchema then "true" else "false") ++ ") ==="

/-- The descriptors that are defined before the scope is opened. -/
def definitions : List Catalog.Request :=
  [.definePropertyKey "name" .string .single, .definePropertyKey "age" .integer .single,
    .definePropertyKey "nickname" .string .set, .defineEdgeLabel "knows",
    .defineEdgeLabel "follows", .defineVertexLabel "person"]

def alice : VertexId := ⟨1⟩

def bob : VertexId := ⟨2⟩

def charlie : VertexId := ⟨3⟩

def introduce (person : VertexId) (name : String) (age : Int64) : List Event :=
  [.perform (.addProperty person "name" (.string name)),
    .perform (.addProperty person "age" (.integer age)),
    .say ("✓ Created person: " ++ name ++ " (age " ++ toString age.toInt ++ ")")]

/-- Everything that happens before the graph is shown. -/
def events : List Event :=
  List.replicate 3 (.perform (.addVertexWithLabel "person")) ++
    introduce alice "Alice" 30 ++ introduce bob "Bob" 25 ++ introduce charlie "Charlie" 35 ++
    [.perform (.addProperty alice "nickname" (.string "Al")),
      .perform (.addProperty alice "nickname" (.string "Ally")),
      .perform (.addEdge alice "knows" bob),
      .perform (.addEdge alice "follows" charlie),
      .perform (.addEdge alice "follows" alice),
      .say "✓ Alice -[knows]-> Bob, Alice -[follows]-> Charlie, Alice -[follows]-> Alice",
      .perform (.addEdge bob "knows" charlie),
      .say "✓ Bob -[knows]-> Charlie",
      .attempt (.addProperty charlie "age" (.string "thirty-five"))]

def portrait (tour : Tour) : Except Violation (List String) := do
  let vertex ← tour.scope.view alice
  let names ← tour.scope.propertyNames tour.catalog alice
  let followed ← tour.scope.neighbours tour.catalog alice .outgoing ["follows"]
  let known ← tour.scope.edgesNamed tour.catalog alice .outgoing ["knows"]
  let quote (name : String) := "\"" ++ name ++ "\""
  return ["", "Alice (" ++ vertex.label.name ++ "):",
    "  Edges: " ++ toString vertex.edgeCount ++ " (the self-loop counts twice)",
    "  Properties: " ++ toString vertex.propertyCount,
    "  Keys: \x7b" ++ ", ".intercalate (names.map quote) ++ "\x7d",
    "  Follows: [" ++ ", ".intercalate (followed.map VertexId.text) ++ "]",
    "  Knows (query): " ++ toString known.length]

def closing (scope : Scope) : List String :=
  ["", "Modified vertices before commit: " ++ toString scope.modified.length,
    "Modified vertices after commit: " ++ toString scope.commit.2.modified.length]

def firstError? (answers : List (Except GraphError Catalog.Answer)) : Option GraphError :=
  answers.findSome? fun answer =>
    match answer with
    | .ok _ => none
    | .error error => some error

def tour (config : Config) : Transcript :=
  let opening := banner ++ [title config]
  let (answers, catalog) := Catalog.fresh.serveAll definitions
  match firstError? answers with
  | some error => ⟨opening, some (.error error)⟩
  | none =>
    match Scope.start config catalog with
    | .error error => ⟨opening, some (.error error)⟩
    | .ok (scope, catalog) =>
      match Tour.play ⟨catalog, scope, opening⟩ events with
      | (tour, some failure) => ⟨tour.lines, some (.ofFailure failure)⟩
      | (tour, none) =>
        match portrait tour with
        | .error violation => ⟨tour.lines, some (.violation violation)⟩
        | .ok lines => ⟨tour.lines ++ lines ++ closing tour.scope, none⟩

/-- The demonstration under a configuration that may not be had. -/
def run : Except ConfigFault Config → Transcript
  | .ok config => tour config
  | .error fault => ⟨banner, some (.error (.config fault))⟩

end PropertyGraph.Demo
