import PropertyGraph.Identifier

/-!
# Type filters

A restriction on the labels of edges or the keys of properties, by their ids.
-/

namespace PropertyGraph

/-- A restriction on edge label or property key ids. -/
inductive TypeFilter where
  | any
  /-- Only these ids; no ids match nothing. -/
  | only (ids : List SchemaId)
  deriving DecidableEq

namespace TypeFilter

def admits : TypeFilter → SchemaId → Bool
  | any, _ => true
  | only ids, id => ids.contains id

/-- Both restrictions at once; the order and the repetitions of the first list are kept. -/
def and : TypeFilter → TypeFilter → TypeFilter
  | any, filter => filter
  | filter, any => filter
  | only first, only second => only (first.filter second.contains)

@[simp] theorem any_admits (id : SchemaId) : any.admits id = true := rfl

@[simp] theorem and_any (filter : TypeFilter) : filter.and any = filter := by
  cases filter <;> rfl

@[simp] theorem any_and (filter : TypeFilter) : any.and filter = filter := rfl

/-- Both restrictions let an id pass exactly when each does. -/
@[simp] theorem and_admits (first second : TypeFilter) (id : SchemaId) :
    (first.and second).admits id = (first.admits id && second.admits id) := by
  cases first with
  | any => simp
  | only ids =>
    cases second with
    | any => simp
    | only others =>
      rw [Bool.eq_iff_iff]
      simp [and, admits]

end TypeFilter

instance : Inhabited TypeFilter := ⟨.any⟩

end PropertyGraph
