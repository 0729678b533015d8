import PropertyGraph.Proofs.Incidence.Counting
import PropertyGraph.Relation

/-!
# The index of a list of relations

From a list of relations and a vertex one can read off which index the vertex
should have: an outgoing entry for each edge that starts there, an incoming one
for each edge that ends there, a property entry for each property it owns, all
in the order of the list.  Adding a relation to the list files it in the index,
and dropping the relations of an id drops their entries.
-/

namespace PropertyGraph

namespace Relation

/-- The entry that the endpoints of the relation have for it. -/
def entry : Relation → Entry
  | edge e => ⟨e.id, e.label.id, e.isLoop⟩
  | property p => ⟨p.id, p.key.id, false⟩

def startsFrom (relation : Relation) (vertex : VertexId) : Bool :=
  relation.edge?.any (·.startsFrom vertex)

def endsAt (relation : Relation) (vertex : VertexId) : Bool :=
  relation.edge?.any (·.endsAt vertex)

def isOwnedBy (relation : Relation) (vertex : VertexId) : Bool :=
  relation.property?.any (·.owner = vertex)

@[simp] theorem edge?_edge (e : Edge) : (edge e).edge? = some e := rfl

@[simp] theorem edge?_property (p : Property) : (property p).edge? = none := rfl

@[simp] theorem property?_edge (e : Edge) : (edge e).property? = none := rfl

@[simp] theorem property?_property (p : Property) : (property p).property? = some p := rfl

theorem edge?_eq_some_iff {relation : Relation} {e : Edge} :
    relation.edge? = some e ↔ relation = edge e := by
  cases relation <;> simp

theorem property?_eq_some_iff {relation : Relation} {p : Property} :
    relation.property? = some p ↔ relation = property p := by
  cases relation <;> simp

@[simp] theorem entry_relation (relation : Relation) : relation.entry.relation = relation.id := by
  cases relation <;> rfl

@[simp] theorem entry_typeId (relation : Relation) : relation.entry.typeId = relation.typeId := by
  cases relation <;> rfl

/-- A relation is incident on a vertex in one of three ways. -/
theorem isIncidentOn_eq (relation : Relation) (vertex : VertexId) :
    relation.isIncidentOn vertex =
      (relation.startsFrom vertex || relation.endsAt vertex || relation.isOwnedBy vertex) := by
  cases relation with
  | edge e => simp [isIncidentOn, startsFrom, endsAt, isOwnedBy, Edge.startsFrom, Edge.endsAt]
  | property p => simp [isIncidentOn, startsFrom, endsAt, isOwnedBy]

theorem endpoints_nodup (relation : Relation) : relation.endpoints.Nodup := by
  cases relation with
  | edge e => by_cases same : e.source = e.target <;> simp [endpoints, Edge.isLoop, same]
  | property p => exact List.nodup_singleton _

end Relation

namespace Index

/-- The index with entries of a vertex for further relations at the ends of its lists. -/
def file (index : Index) (vertex : VertexId) (relations : List Relation) : Index :=
  ⟨index.outgoing ++ (relations.filter (·.startsFrom vertex)).map Relation.entry,
    index.incoming ++ (relations.filter (·.endsAt vertex)).map Relation.entry,
    index.properties ++ (relations.filter (·.isOwnedBy vertex)).map Relation.entry⟩

/-- The index that a vertex has in a graph of the given relations. -/
def ofRelations (vertex : VertexId) (relations : List Relation) : Index :=
  empty.file vertex relations

section

variable (vertex : VertexId) (relations : List Relation)

theorem outgoing_ofRelations : (ofRelations vertex relations).outgoing =
    (relations.filter (·.startsFrom vertex)).map Relation.entry := rfl

theorem incoming_ofRelations : (ofRelations vertex relations).incoming =
    (relations.filter (·.endsAt vertex)).map Relation.entry := rfl

theorem properties_ofRelations : (ofRelations vertex relations).properties =
    (relations.filter (·.isOwnedBy vertex)).map Relation.entry := rfl

/-- Relations that are added later are filed later. -/
theorem ofRelations_append (more : List Relation) :
    ofRelations vertex (relations ++ more) = (ofRelations vertex relations).file vertex more := by
  simp [ofRelations, file, empty]

end

/-- An edge is filed under each side that it has at the vertex. -/
theorem file_edge (index : Index) (vertex : VertexId) (e : Edge) :
    index.file vertex [.edge e] =
      ⟨if e.source = vertex then index.outgoing ++ [⟨e.id, e.label.id, e.isLoop⟩]
        else index.outgoing,
        if e.target = vertex then index.incoming ++ [⟨e.id, e.label.id, e.isLoop⟩]
        else index.incoming,
        index.properties⟩ := by
  by_cases starts : e.source = vertex <;> by_cases ends : e.target = vertex <;>
    simp [file, Relation.startsFrom, Relation.endsAt, Relation.isOwnedBy, Edge.startsFrom,
      Edge.endsAt, Relation.entry, starts, ends]

theorem file_property (index : Index) (p : Property) :
    index.file p.owner [.property p] =
      { index with properties := index.properties ++ [⟨p.id, p.key.id, false⟩] } := by
  simp [file, Relation.startsFrom, Relation.endsAt, Relation.isOwnedBy, Relation.entry]

/-- Only relations incident on the vertex are filed. -/
theorem file_eq_self {vertex : VertexId} {relations : List Relation} (index : Index)
    (foreign : ∀ relation ∈ relations, relation.isIncidentOn vertex = false) :
    index.file vertex relations = index := by
  have apart (relation : Relation) (member : relation ∈ relations) :
      relation.startsFrom vertex = false ∧ relation.endsAt vertex = false ∧
        relation.isOwnedBy vertex = false := by
    have outside := foreign relation member
    rw [Relation.isIncidentOn_eq, Bool.or_eq_false_iff, Bool.or_eq_false_iff, and_assoc] at outside
    exact outside
  have outgoing : relations.filter (·.startsFrom vertex) = [] :=
    List.filter_eq_nil_iff.2 fun relation member => by simp [(apart relation member).1]
  have incoming : relations.filter (·.endsAt vertex) = [] :=
    List.filter_eq_nil_iff.2 fun relation member => by simp [(apart relation member).2.1]
  have properties : relations.filter (·.isOwnedBy vertex) = [] :=
    List.filter_eq_nil_iff.2 fun relation member => by simp [(apart relation member).2.2]
  simp [file, outgoing, incoming, properties]

/-- Dropping the entries of an id is indexing without the relations of that id. -/
theorem ofRelations_without (vertex : VertexId) (relations : List Relation) (id : RelationId) :
    (ofRelations vertex relations).without id =
      ofRelations vertex (relations.filter fun relation => relation.id ≠ id) := by
  have swap (keep : Relation → Bool) :
      ((relations.filter keep).map Relation.entry).filter (fun entry => entry.relation ≠ id) =
        ((relations.filter fun relation => relation.id ≠ id).filter keep).map Relation.entry := by
    rw [List.filter_map, List.filter_filter, List.filter_filter]
    congr 2
    funext relation
    simp [Bool.and_comm]
  simp only [without, ofRelations, file, empty, List.nil_append, swap]

theorem contains_ofRelations {vertex : VertexId} {relations : List Relation} {id : RelationId} :
    (ofRelations vertex relations).contains id = true ↔
      ∃ relation ∈ relations, relation.isIncidentOn vertex = true ∧ relation.id = id := by
  simp only [contains, ofRelations, file, empty, List.nil_append, List.any_append, List.any_map,
    List.any_filter, List.any_eq_true, Bool.or_eq_true, Bool.and_eq_true, Function.comp_apply,
    Relation.entry_relation, decide_eq_true_eq, Relation.isIncidentOn_eq]
  constructor
  · rintro ((⟨relation, member, incident, same⟩ | ⟨relation, member, incident, same⟩) |
      ⟨relation, member, incident, same⟩)
    · exact ⟨relation, member, .inl (.inl incident), same⟩
    · exact ⟨relation, member, .inl (.inr incident), same⟩
    · exact ⟨relation, member, .inr incident, same⟩
  · rintro ⟨relation, member, (incident | incident) | incident, same⟩
    · exact .inl (.inl ⟨relation, member, incident, same⟩)
    · exact .inl (.inr ⟨relation, member, incident, same⟩)
    · exact .inr ⟨relation, member, incident, same⟩

/-- An index without entries of a relation keeps all entries. -/
theorem without_eq_self {index : Index} {relation : RelationId}
    (absent : index.contains relation = false) : index.without relation = index := by
  simp only [contains, List.any_append, Bool.or_eq_false_iff, List.any_eq_false,
    decide_eq_true_eq, and_assoc] at absent
  obtain ⟨outgoing, incoming, properties⟩ := absent
  have keeps (entries : List Entry) (foreign : ∀ entry ∈ entries, ¬ entry.relation = relation) :
      (entries.filter fun entry => entry.relation ≠ relation) = entries :=
    List.filter_eq_self.2 fun entry member => decide_eq_true (foreign entry member)
  simp only [without, keeps _ outgoing, keeps _ incoming, keeps _ properties]

/-- Removal reports the entries it drops, of which a contained relation has one. -/
theorem remove_ne_zero {index : Index} {relation : RelationId}
    (contained : index.contains relation = true) : (index.remove relation).1 ≠ 0 := by
  rw [remove_eq_countP]
  exact Nat.ne_of_gt (List.countP_pos_iff.2 (List.any_eq_true.1 contained))

end Index

end PropertyGraph
