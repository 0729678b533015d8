import PropertyGraph.Error

/-!
# Directories

A directory holds the descriptors of one kind in ascending order of their
ids.  Descriptors are only ever added: under a fresh name and a fresh id, and
never under the last id, since the next one could not be numbered.
-/

namespace PropertyGraph

/-- The descriptors of one kind, in ascending order of their ids. -/
structure Directory (δ : Type) where
  entries : List δ
  deriving DecidableEq

namespace Directory

variable {δ : Type} [Catalogued δ]

def empty : Directory δ := ⟨[]⟩

def find? (directory : Directory δ) (name : String) : Option δ :=
  directory.entries.find? fun entry => Catalogued.name entry = name

def byId? (directory : Directory δ) (id : SchemaId) : Option δ :=
  directory.entries.find? fun entry => Catalogued.id entry = id

/-- The descriptor with the given id, provided that it also has the given name. -/
def matching? (directory : Directory δ) (id : SchemaId) (name : String) : Option δ :=
  (directory.byId? id).filter fun entry => Catalogued.name entry = name

def contains (directory : Directory δ) (name : String) : Bool := (directory.find? name).isSome

def names (directory : Directory δ) : List String := directory.entries.map Catalogued.name

def length (directory : Directory δ) : Nat := directory.entries.length

/-- The id of the next descriptor: the successor of the largest one, or zero. -/
def nextId (directory : Directory δ) : SchemaId :=
  match directory.entries.getLast? with
  | none => ⟨0⟩
  | some entry => ⟨(Catalogued.id entry).word + 1⟩

/-- Put a descriptor in front of the first one with a larger id. -/
def insertOrdered (entry : δ) : List δ → List δ
  | [] => [entry]
  | other :: rest =>
    if (Catalogued.id entry).word < (Catalogued.id other).word then entry :: other :: rest
    else other :: insertOrdered entry rest

/-- Add a descriptor whose name and id are both fresh and whose id is not the last one. -/
def insert (directory : Directory δ) (entry : δ) : Except GraphError (Directory δ) :=
  if (directory.find? (Catalogued.name entry)).isSome ∨
      (directory.byId? (Catalogued.id entry)).isSome then
    .error (.typeAlreadyExists (Catalogued.kind δ) (Catalogued.name entry))
  else if Catalogued.id entry = .last then
    .error (.config (.idOutOfRange (Catalogued.kind δ) (Catalogued.id entry)))
  else .ok ⟨insertOrdered entry directory.entries⟩

def create (directory : Directory δ) (make : SchemaId → δ) :
    Except GraphError (δ × Directory δ) :=
  let entry := make directory.nextId
  (directory.insert entry).map fun grown => (entry, grown)

/-- The descriptor of a name; it is created if it is wanted, missing and not the empty name. -/
def intern (directory : Directory δ) (name : String) (wanted : Bool) (make : SchemaId → δ) :
    Except GraphError (δ × Directory δ) :=
  match directory.find? name with
  | some entry => .ok (entry, directory)
  | none =>
    if !wanted ∨ name = "" then .error (.unknownType (Catalogued.kind δ) name)
    else directory.create make

/-- A new descriptor under a name that is neither empty nor taken. -/
def define (directory : Directory δ) (name : String) (make : SchemaId → δ) :
    Except GraphError (δ × Directory δ) :=
  if name = "" then .error (.unknownType (Catalogued.kind δ) name)
  else if directory.contains name then .error (.typeAlreadyExists (Catalogued.kind δ) name)
  else directory.create make

/-- Add descriptors one after the other; the first refusal ends it. -/
def insertAll (directory : Directory δ) : List δ → Except GraphError (Directory δ)
  | [] => .ok directory
  | entry :: rest =>
    match directory.insert entry with
    | .ok grown => grown.insertAll rest
    | .error error => .error error

end Directory

end PropertyGraph
