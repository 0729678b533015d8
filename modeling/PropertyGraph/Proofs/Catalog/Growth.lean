import PropertyGraph.Catalog.Request
import PropertyGraph.Proofs.Catalog.Directory

/-!
# The growth of catalogs

A catalog is sound if its three directories are ordered.  The fresh catalog
and every restored one are sound, and whatever is asked of a sound catalog
leads to a sound catalog that has all descriptors of the earlier one.
-/

namespace PropertyGraph.Catalog

structure Sound (catalog : Catalog) : Prop where
  propertyKeys : catalog.propertyKeys.Ordered
  edgeLabels : catalog.edgeLabels.Ordered
  vertexLabels : catalog.vertexLabels.Ordered

structure Grows (catalog grown : Catalog) : Prop where
  propertyKeys : catalog.propertyKeys.Grows grown.propertyKeys
  edgeLabels : catalog.edgeLabels.Grows grown.edgeLabels
  vertexLabels : catalog.vertexLabels.Grows grown.vertexLabels

namespace Grows

theorem refl (catalog : Catalog) : catalog.Grows catalog := ⟨.refl _, .refl _, .refl _⟩

theorem trans {first second third : Catalog} (earlier : first.Grows second)
    (later : second.Grows third) : first.Grows third :=
  ⟨earlier.propertyKeys.trans later.propertyKeys, earlier.edgeLabels.trans later.edgeLabels,
    earlier.vertexLabels.trans later.vertexLabels⟩

end Grows

/-- What holds of a catalog, and of what a creation leads to, holds after it is served. -/
theorem Served.catalog_ofCreation (holds : Catalog → Prop) {catalog : Catalog}
    (held : holds catalog) {δ : Type} {wrap : δ → Descriptor}
    {creation : Except GraphError (δ × Catalog)}
    (created : ∀ entry grown, creation = .ok (entry, grown) → holds grown) :
    holds (Served.ofCreation catalog wrap creation).catalog := by
  cases creation with
  | error error => exact held
  | ok result => exact created result.1 result.2 rfl

/-- A sound catalog that grew out of another one. -/
structure Leads (catalog grown : Catalog) : Prop where
  sound : grown.Sound
  grows : catalog.Grows grown

namespace Sound

variable {catalog : Catalog}

theorem fresh : Catalog.fresh.Sound := by
  refine ⟨.empty, .empty, ⟨List.pairwise_singleton _ _, List.nodup_singleton _, ?_⟩⟩
  intro entry known
  rw [List.mem_singleton.1 known]
  decide

theorem leads_refl (sound : catalog.Sound) : catalog.Leads catalog := ⟨sound, .refl catalog⟩

theorem leads_propertyKeys (sound : catalog.Sound) {key : PropertyKey}
    {grown : Directory PropertyKey} (yields : catalog.propertyKeys.Yields key grown) :
    catalog.Leads { catalog with propertyKeys := grown } :=
  ⟨⟨yields.ordered, sound.edgeLabels, sound.vertexLabels⟩, ⟨yields.grows, .refl _, .refl _⟩⟩

theorem leads_edgeLabels (sound : catalog.Sound) {label : EdgeLabel}
    {grown : Directory EdgeLabel} (yields : catalog.edgeLabels.Yields label grown) :
    catalog.Leads { catalog with edgeLabels := grown } :=
  ⟨⟨sound.propertyKeys, yields.ordered, sound.vertexLabels⟩, ⟨.refl _, yields.grows, .refl _⟩⟩

theorem leads_vertexLabels (sound : catalog.Sound) {label : VertexLabel}
    {grown : Directory VertexLabel} (yields : catalog.vertexLabels.Yields label grown) :
    catalog.Leads { catalog with vertexLabels := grown } :=
  ⟨⟨sound.propertyKeys, sound.edgeLabels, yields.ordered⟩, ⟨.refl _, .refl _, yields.grows⟩⟩

/-- Resolving a property key answers with a key of the catalog after it. -/
theorem propertyKey (sound : catalog.Sound) {policy : Policy} {name : String} {key : PropertyKey}
    {grown : Catalog} (resolved : catalog.propertyKey policy name = .ok (key, grown)) :
    catalog.Leads grown ∧ key ∈ grown.propertyKeys.entries := by
  obtain ⟨⟨found, directory⟩, interned, same⟩ := map_eq_ok_iff.1 resolved
  cases same
  have yields := Directory.intern_yields sound.propertyKeys (fun _ => rfl) interned
  exact ⟨sound.leads_propertyKeys yields, yields.mem⟩

/-- Resolving an edge label answers with a label of the catalog after it. -/
theorem edgeLabel (sound : catalog.Sound) {policy : Policy} {name : String} {label : EdgeLabel}
    {grown : Catalog} (resolved : catalog.edgeLabel policy name = .ok (label, grown)) :
    catalog.Leads grown ∧ label ∈ grown.edgeLabels.entries := by
  obtain ⟨⟨found, directory⟩, interned, same⟩ := map_eq_ok_iff.1 resolved
  cases same
  have yields := Directory.intern_yields sound.edgeLabels (fun _ => rfl) interned
  exact ⟨sound.leads_edgeLabels yields, yields.mem⟩

/-- Resolving a vertex label answers with a label of the catalog after it. -/
theorem vertexLabel (sound : catalog.Sound) {policy : Policy} {name : String}
    {label : VertexLabel} {grown : Catalog}
    (resolved : catalog.vertexLabel policy name = .ok (label, grown)) :
    catalog.Leads grown ∧ label ∈ grown.vertexLabels.entries := by
  obtain ⟨⟨found, directory⟩, interned, same⟩ := map_eq_ok_iff.1 resolved
  cases same
  have yields := Directory.intern_yields sound.vertexLabels (fun _ => rfl) interned
  exact ⟨sound.leads_vertexLabels yields, yields.mem⟩

theorem resolveOrCreate (sound : catalog.Sound) {kind : Kind} {policy : Policy} {name : String}
    {descriptor : Descriptor} {grown : Catalog}
    (resolved : catalog.resolveOrCreate kind policy name = .ok (descriptor, grown)) :
    catalog.Leads grown := by
  cases kind with
  | propertyKey =>
      obtain ⟨⟨key, after⟩, found, same⟩ := map_eq_ok_iff.1 resolved
      cases same
      exact (sound.propertyKey found).1
  | edgeLabel =>
      obtain ⟨⟨label, after⟩, found, same⟩ := map_eq_ok_iff.1 resolved
      cases same
      exact (sound.edgeLabel found).1
  | vertexLabel =>
      obtain ⟨⟨label, after⟩, found, same⟩ := map_eq_ok_iff.1 resolved
      cases same
      exact (sound.vertexLabel found).1

theorem definePropertyKey (sound : catalog.Sound) {name : String} {dataType : DataType}
    {cardinality : Cardinality} {key : PropertyKey} {grown : Catalog}
    (defined : catalog.definePropertyKey name dataType cardinality = .ok (key, grown)) :
    catalog.Leads grown := by
  obtain ⟨⟨created, directory⟩, found, same⟩ := map_eq_ok_iff.1 defined
  cases same
  exact sound.leads_propertyKeys
    (Directory.define_yields sound.propertyKeys (fun _ => rfl) found)

theorem defineEdgeLabel (sound : catalog.Sound) {name : String} {label : EdgeLabel}
    {grown : Catalog} (defined : catalog.defineEdgeLabel name = .ok (label, grown)) :
    catalog.Leads grown := by
  obtain ⟨⟨created, directory⟩, found, same⟩ := map_eq_ok_iff.1 defined
  cases same
  exact sound.leads_edgeLabels (Directory.define_yields sound.edgeLabels (fun _ => rfl) found)

theorem defineVertexLabel (sound : catalog.Sound) {name : String} {label : VertexLabel}
    {grown : Catalog} (defined : catalog.defineVertexLabel name = .ok (label, grown)) :
    catalog.Leads grown := by
  obtain ⟨⟨created, directory⟩, found, same⟩ := map_eq_ok_iff.1 defined
  cases same
  exact sound.leads_vertexLabels
    (Directory.define_yields sound.vertexLabels (fun _ => rfl) found)

theorem ofCreation (sound : catalog.Sound) {δ : Type} {wrap : δ → Descriptor}
    {creation : Except GraphError (δ × Catalog)}
    (leads : ∀ entry grown, creation = .ok (entry, grown) → catalog.Leads grown) :
    catalog.Leads (Served.ofCreation catalog wrap creation).catalog :=
  Served.catalog_ofCreation catalog.Leads sound.leads_refl leads

/-- Whatever is asked of a sound catalog leads to a sound catalog grown out of it. -/
theorem serve (sound : catalog.Sound) (request : Request) :
    catalog.Leads (catalog.serve request).catalog := by
  cases request with
  | definePropertyKey name dataType cardinality =>
      exact sound.ofCreation fun _ _ defined => sound.definePropertyKey defined
  | defineEdgeLabel name => exact sound.ofCreation fun _ _ defined => sound.defineEdgeLabel defined
  | defineVertexLabel name =>
      exact sound.ofCreation fun _ _ defined => sound.defineVertexLabel defined
  | resolve kind name => exact sound.ofCreation fun _ _ resolved => sound.resolveOrCreate resolved
  | resolveOrCreate kind name policy =>
      exact sound.ofCreation fun _ _ resolved => sound.resolveOrCreate resolved
  | lookup kind name => exact sound.leads_refl
  | byId kind id => exact sound.leads_refl
  | contains kind name => exact sound.leads_refl
  | names kind => exact sound.leads_refl
  | length kind => exact sound.leads_refl
  | snapshot => exact sound.leads_refl

end Sound

/-- Restoring enters the three lists, and then the standard label if it is missing. -/
theorem restore_eq_ok {snapshot : Snapshot} {catalog : Catalog}
    (restored : Catalog.restore snapshot = .ok catalog) :
    ∃ propertyKeys edgeLabels vertexLabels,
      Directory.empty.insertAll snapshot.propertyKeys = .ok propertyKeys ∧
      Directory.empty.insertAll snapshot.edgeLabels = .ok edgeLabels ∧
      Directory.empty.insertAll snapshot.vertexLabels = .ok vertexLabels ∧
      withStandardLabel ⟨propertyKeys, edgeLabels, vertexLabels⟩ = .ok catalog := by
  unfold Catalog.restore at restored
  split at restored
  next => cases restored
  next propertyKeys keysInserted =>
    split at restored
    next => cases restored
    next edgeLabels edgesInserted =>
      split at restored
      next => cases restored
      next vertexLabels verticesInserted =>
        exact ⟨propertyKeys, edgeLabels, vertexLabels, keysInserted, edgesInserted,
          verticesInserted, restored⟩

/-- The standard label is there already, or it is created. -/
theorem withStandardLabel_cases {catalog grown : Catalog}
    (completed : catalog.withStandardLabel = .ok grown) :
    catalog.vertexLabels.contains standardVertexLabel = true ∧ grown = catalog ∨
      ∃ label labels,
        catalog.vertexLabels.create (fun id => ⟨id, standardVertexLabel⟩) = .ok (label, labels) ∧
        grown = { catalog with vertexLabels := labels } := by
  unfold withStandardLabel at completed
  split at completed
  next present =>
    cases completed
    exact .inl ⟨present, rfl⟩
  next =>
    obtain ⟨⟨label, labels⟩, created, same⟩ := map_eq_ok_iff.1 completed
    exact .inr ⟨label, labels, created, same.symm⟩

/-- A restored catalog is sound, whatever the snapshot was. -/
theorem Sound.restore {snapshot : Snapshot} {catalog : Catalog}
    (restored : Catalog.restore snapshot = .ok catalog) : catalog.Sound := by
  obtain ⟨propertyKeys, edgeLabels, vertexLabels, keys, edges, vertices, completed⟩ :=
    restore_eq_ok restored
  have whole : Sound ⟨propertyKeys, edgeLabels, vertexLabels⟩ :=
    ⟨Directory.Ordered.empty.insertAll keys, Directory.Ordered.empty.insertAll edges,
      Directory.Ordered.empty.insertAll vertices⟩
  rcases withStandardLabel_cases completed with ⟨-, rfl⟩ | ⟨label, labels, created, rfl⟩
  · exact whole
  · exact (whole.leads_vertexLabels
      (Directory.create_yields whole.vertexLabels (fun _ => rfl) created)).sound

end PropertyGraph.Catalog
