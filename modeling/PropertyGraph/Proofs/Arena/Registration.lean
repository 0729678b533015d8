import PropertyGraph.Proofs.Arena.Edit
import PropertyGraph.Proofs.Arena.Entries
import PropertyGraph.Proofs.Catalog.View

/-!
# Registered descriptors

A descriptor is registered if the catalog finds it, as it is, under its name
and under its id in its own kind.  Everything that a sound arena stores carries
a registered descriptor, and every index entry carries the type id of the
relation that it stands for.
-/

namespace PropertyGraph

def Relation.descriptor : Relation → Descriptor
  | edge e => .edgeLabel e.label
  | property p => .propertyKey p.key

/-- The catalog finds this very descriptor under its name and under its id. -/
structure Catalog.Registers (catalog : Catalog) (descriptor : Descriptor) : Prop where
  named : catalog.lookup? descriptor.kind descriptor.name = some descriptor
  numbered : catalog.byId? descriptor.kind descriptor.id = some descriptor

theorem Catalog.Sound.registers {catalog : Catalog} (sound : catalog.Sound)
    {descriptor : Descriptor}
    (known : descriptor ∈ catalog.snapshot.descriptors descriptor.kind) :
    catalog.Registers descriptor := by
  have views := sound.views_agree descriptor.kind
  exact ⟨(views.lookup?_iff _ _).2 ⟨known, rfl⟩, (views.byId?_iff _ _).2 ⟨known, rfl⟩⟩

theorem Relation.KnownTo.registers {catalog : Catalog} {relation : Relation}
    (known : relation.KnownTo catalog) (sound : catalog.Sound) :
    catalog.Registers relation.descriptor := by
  cases relation with
  | edge e => exact sound.registers (List.mem_map_of_mem known)
  | property p => exact sound.registers (List.mem_map_of_mem known)

namespace Arena

/-- What the arena stores carries registered descriptors, and entries carry their ids. -/
structure Registered (arena : Arena) (catalog : Catalog) : Prop where
  vertex : ∀ id vertex, arena.vertex? id = some vertex →
    catalog.Registers (.vertexLabel vertex.label)
  edge : ∀ id edge, arena.relation? id = some (.edge edge) →
    catalog.Registers (.edgeLabel edge.label)
  property : ∀ id property, arena.relation? id = some (.property property) →
    catalog.Registers (.propertyKey property.key)
  outgoing : ∀ id vertex, arena.vertex? id = some vertex → ∀ entry ∈ vertex.index.outgoing,
    ∃ edge, arena.relation? entry.relation = some (.edge edge) ∧ edge.source = id ∧
      entry.typeId = edge.label.id
  incoming : ∀ id vertex, arena.vertex? id = some vertex → ∀ entry ∈ vertex.index.incoming,
    ∃ edge, arena.relation? entry.relation = some (.edge edge) ∧ edge.target = id ∧
      entry.typeId = edge.label.id
  properties : ∀ id vertex, arena.vertex? id = some vertex → ∀ entry ∈ vertex.index.properties,
    ∃ property, arena.relation? entry.relation = some (.property property) ∧
      property.owner = id ∧ entry.typeId = property.key.id

/-- A sound arena over a sound catalog stores registered descriptors only. -/
theorem Sound.registered {arena : Arena} {catalog : Catalog} (sound : arena.Sound catalog)
    (catalogSound : catalog.Sound) : arena.Registered catalog := by
  have indexed := sound.toConsistent.indexed_entries
  have registers : ∀ id relation, arena.relation? id = some relation →
      catalog.Registers relation.descriptor :=
    fun id relation found =>
      (sound.types_known relation (Consistent.mem_live_of_relation? found)).registers catalogSound
  refine ⟨?_, fun id edge => registers id (.edge edge),
    fun id property => registers id (.property property), ?_, ?_, ?_⟩
  · intro id vertex found
    exact catalogSound.registers
      (List.mem_map_of_mem (sound.labels_known vertex (Consistent.mem_live_of_vertex? found)))
  · intro id vertex found entry filed
    obtain ⟨edge, live, source, rfl⟩ :=
      indexed.outgoing vertex (Consistent.mem_live_of_vertex? found) entry filed
    exact ⟨edge, sound.mem_liveEdges_iff.1 live,
      source.trans (id_of_vertex? sound.vertices_numbered found), rfl⟩
  · intro id vertex found entry filed
    obtain ⟨edge, live, target, rfl⟩ :=
      indexed.incoming vertex (Consistent.mem_live_of_vertex? found) entry filed
    exact ⟨edge, sound.mem_liveEdges_iff.1 live,
      target.trans (id_of_vertex? sound.vertices_numbered found), rfl⟩
  · intro id vertex found entry filed
    obtain ⟨property, live, owner, rfl⟩ :=
      indexed.properties vertex (Consistent.mem_live_of_vertex? found) entry filed
    exact ⟨property, sound.mem_liveProperties_iff.1 live,
      owner.trans (id_of_vertex? sound.vertices_numbered found), rfl⟩

end Arena

end PropertyGraph
