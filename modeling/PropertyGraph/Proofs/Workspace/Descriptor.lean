import PropertyGraph.Proofs.Query.Descriptor
import PropertyGraph.Proofs.Scope.Response
import PropertyGraph.Proofs.Workspace.Run

/-!
# Requests and queries by descriptor

Adding a relation by a descriptor that the catalog knows is adding it by the
descriptor's name, and a descriptor that it does not know is refused even if
its name is taken.  In queries a known descriptor can be replaced by its name,
and an unknown one matches nothing.
-/

namespace PropertyGraph

namespace Scope

variable {catalog : Catalog}

theorem addEdgeWithLabel_of_knows (scope : Scope) {label : EdgeLabel}
    (ordered : catalog.edgeLabels.Ordered) (knows : catalog.edgeLabels.Knows label)
    (source target : VertexId) :
    scope.addEdgeWithLabel catalog source label target =
      scope.addEdge catalog source label.name target := by
  obtain ⟨known, matched, found⟩ := knows.lookups ordered
  have resolved := Catalog.edgeLabel_of_find? found scope.config.policy
  unfold addEdgeWithLabel addEdge
  cases scope.missing? [source, target] with
  | some vertex => rfl
  | none =>
      change catalog.edgeLabels.matching? label.id label.name = some known at matched
      change catalog.edgeLabel scope.config.policy label.name = _ at resolved
      simp only [matched, resolved]

theorem addEdgeWithLabel_of_not_knows {scope : Scope} {label : EdgeLabel}
    (foreign : ¬ catalog.edgeLabels.Knows label) {source target : VertexId}
    (starts : scope.containsVertex source = true) (ends : scope.containsVertex target = true) :
    scope.addEdgeWithLabel catalog source label target =
      scope.refuse catalog (.unknownType .edgeLabel label.name) := by
  have live : scope.missing? [source, target] = none := by
    rw [missing?_eq_none_iff, List.forall_mem_cons, List.forall_mem_singleton]
    exact ⟨starts, ends⟩
  have unmatched : catalog.edgeLabels.matching? label.id label.name = none :=
    Directory.matching?_of_not_knows foreign
  simp only [addEdgeWithLabel, live, unmatched]

theorem addPropertyWithKey_of_knows (scope : Scope) {key : PropertyKey}
    (ordered : catalog.propertyKeys.Ordered) (knows : catalog.propertyKeys.Knows key)
    (owner : VertexId) (value : Value) :
    scope.addPropertyWithKey catalog owner key value =
      scope.addProperty catalog owner key.name value := by
  obtain ⟨known, matched, found⟩ := knows.lookups ordered
  have resolved := Catalog.propertyKey_of_find? found scope.config.policy
  unfold addPropertyWithKey addProperty
  cases scope.missing? [owner] with
  | some vertex => rfl
  | none =>
      change catalog.propertyKeys.matching? key.id key.name = some known at matched
      change catalog.propertyKey scope.config.policy key.name = _ at resolved
      simp only [matched, resolved]

theorem addPropertyWithKey_of_not_knows {scope : Scope} {key : PropertyKey}
    (foreign : ¬ catalog.propertyKeys.Knows key) {owner : VertexId}
    (live : scope.containsVertex owner = true) (value : Value) :
    scope.addPropertyWithKey catalog owner key value =
      scope.refuse catalog (.unknownType .propertyKey key.name) := by
  have unmatched : catalog.propertyKeys.matching? key.id key.name = none :=
    Directory.matching?_of_not_knows foreign
  simp only [addPropertyWithKey, missing?_owner.2 live, unmatched]

/-- What is asked by descriptor is what is asked by name, if the catalog knows the descriptor. -/
structure NamesAgree (scope : Scope) (catalog : Catalog) : Prop where
  label : ∀ source label target, catalog.edgeLabels.Knows label →
    scope.addEdgeWithLabel catalog source label target =
      scope.addEdge catalog source label.name target
  foreignLabel : ∀ source label target, ¬ catalog.edgeLabels.Knows label →
    scope.containsVertex source = true → scope.containsVertex target = true →
    scope.addEdgeWithLabel catalog source label target =
      scope.refuse catalog (.unknownType .edgeLabel label.name)
  key : ∀ owner key value, catalog.propertyKeys.Knows key →
    scope.addPropertyWithKey catalog owner key value =
      scope.addProperty catalog owner key.name value
  foreignKey : ∀ owner key value, ¬ catalog.propertyKeys.Knows key →
    scope.containsVertex owner = true →
    scope.addPropertyWithKey catalog owner key value =
      scope.refuse catalog (.unknownType .propertyKey key.name)
  labelGroup : ∀ (query : Query) before after (group : List EdgeLabel),
    (∀ label ∈ group, catalog.edgeLabels.Knows label) →
    (query.labelled (before ++ group.map .toEntry :: after)).read scope catalog =
      (query.labelled (before ++ group.map .toName :: after)).read scope catalog
  keyGroup : ∀ (query : Query) before after (group : List PropertyKey),
    (∀ key ∈ group, catalog.propertyKeys.Knows key) →
    (query.keyed (before ++ group.map .toEntry :: after)).read scope catalog =
      (query.keyed (before ++ group.map .toName :: after)).read scope catalog
  /-- An unknown label in a group may as well be left out. -/
  withoutLabel : ∀ (query : Query) before after front back (label : EdgeLabel),
    ¬ catalog.edgeLabels.Knows label →
    (query.labelled (before ++ (front ++ .toEntry label :: back) :: after)).read scope catalog =
      (query.labelled (before ++ (front ++ back) :: after)).read scope catalog
  withoutKey : ∀ (query : Query) before after front back (key : PropertyKey),
    ¬ catalog.propertyKeys.Knows key →
    (query.keyed (before ++ (front ++ .toEntry key :: back) :: after)).read scope catalog =
      (query.keyed (before ++ (front ++ back) :: after)).read scope catalog
  /-- Under a group of unknown labels no edge is listed or counted. -/
  foreignLabels : ∀ (query : Query) before after (group : List EdgeLabel),
    (∀ label ∈ group, ¬ catalog.edgeLabels.Knows label) →
    (query.labelled (before ++ group.map .toEntry :: after)).edges scope catalog = .ok [] ∧
      (query.labelled (before ++ group.map .toEntry :: after)).edgeCount scope catalog = 0
  foreignKeys : ∀ (query : Query) before after (group : List PropertyKey),
    (∀ key ∈ group, ¬ catalog.propertyKeys.Knows key) →
    (query.keyed (before ++ group.map .toEntry :: after)).properties scope catalog = .ok []

/-- Over a sound catalog descriptors and names agree. -/
theorem namesAgree (scope : Scope) (catalogSound : catalog.Sound) : scope.NamesAgree catalog := by
  have labels := catalogSound.edgeLabels
  have keys := catalogSound.propertyKeys
  refine
    { label := fun source _ target knows =>
        scope.addEdgeWithLabel_of_knows labels knows source target
      foreignLabel := fun _ _ _ foreign => addEdgeWithLabel_of_not_knows foreign
      key := fun owner _ value knows => scope.addPropertyWithKey_of_knows keys knows owner value
      foreignKey := fun _ _ value foreign live => addPropertyWithKey_of_not_knows foreign live value
      labelGroup := ?_
      keyGroup := ?_
      withoutLabel := ?_
      withoutKey := ?_
      foreignLabels := ?_
      foreignKeys := ?_ }
  · intro query before after group known
    exact query.read_labelled before after (Directory.filterMap_resolve?_of_knows labels known)
  · intro query before after group known
    exact query.read_keyed before after (Directory.filterMap_resolve?_of_knows keys known)
  · intro query before after front back label foreign
    exact query.read_labelled before after
      (Directory.filterMap_resolve?_append_of_not_knows foreign front back)
  · intro query before after front back key foreign
    exact query.read_keyed before after
      (Directory.filterMap_resolve?_append_of_not_knows foreign front back)
  · intro query before after group foreign
    have unresolved := Directory.filterMap_resolve?_of_not_knows foreign
    exact Query.edges_of_closed (Directory.typeFilter_unresolved unresolved before after)
  · intro query before after group foreign
    have unresolved := Directory.filterMap_resolve?_of_not_knows foreign
    exact Query.properties_of_closed (Directory.typeFilter_unresolved unresolved before after)

end Scope

namespace Workspace

/--
In every reachable workspace and for each scope a known descriptor can be
replaced by its name, in requests and in queries, whatever type and cardinality
it claims; an unknown one is refused and matches nothing.
-/
theorem descriptors_agree_with_names {workspace : Workspace} (reachable : workspace.Reachable)
    (scope : Scope) : scope.NamesAgree workspace.catalog :=
  scope.namesAgree reachable.sound.catalog

def descriptorSteps : List Step :=
  [.start .standard, .scope 0 .addVertex, .scope 0 (.addEdge ⟨1⟩ "knows" ⟨1⟩),
    .catalog (.definePropertyKey "tag" .string .set)]

/--
A key descriptor that claims another type stands for its name.  A label of the
same name and another id is refused, and matches nothing.
-/
theorem descriptors_agree_with_names_collision :
    ∃ scope, ((ofCatalog .fresh).after descriptorSteps).scopes[0]? = some scope ∧
      scope.addPropertyWithKey ((ofCatalog .fresh).after descriptorSteps).catalog ⟨1⟩
          ⟨⟨0⟩, "tag", .integer, .single⟩ (.string "a") =
        scope.addProperty ((ofCatalog .fresh).after descriptorSteps).catalog ⟨1⟩ "tag"
          (.string "a") ∧
      scope.addEdgeWithLabel ((ofCatalog .fresh).after descriptorSteps).catalog ⟨1⟩
          ⟨⟨1⟩, "knows"⟩ ⟨1⟩ =
        scope.refuse ((ofCatalog .fresh).after descriptorSteps).catalog
          (.unknownType .edgeLabel "knows") ∧
      ((Query.around ⟨1⟩).labelled [[.descriptor ⟨0⟩ "knows"]]).read scope
          ((ofCatalog .fresh).after descriptorSteps).catalog =
        ((Query.around ⟨1⟩).labelled [[.name "knows"]]).read scope
          ((ofCatalog .fresh).after descriptorSteps).catalog ∧
      ((Query.around ⟨1⟩).labelled [[.descriptor ⟨1⟩ "knows"]]).edges scope
        ((ofCatalog .fresh).after descriptorSteps).catalog = .ok [] := by
  have reachable := Reachable.fresh.after descriptorSteps
  have opened : ((ofCatalog .fresh).after descriptorSteps).scopes[0]? = some _ := rfl
  have agree := descriptors_agree_with_names reachable
  have foreign : ¬ ((ofCatalog .fresh).after descriptorSteps).catalog.edgeLabels.Knows
      (⟨⟨1⟩, "knows"⟩ : EdgeLabel) := by
    rintro ⟨known, found, -⟩
    cases found
  refine ⟨_, opened, ?_, ?_, ?_, ?_⟩
  · exact (agree _).key ⟨1⟩ ⟨⟨0⟩, "tag", .integer, .single⟩ (.string "a") ⟨_, rfl, rfl⟩
  · exact (agree _).foreignLabel ⟨1⟩ ⟨⟨1⟩, "knows"⟩ ⟨1⟩ foreign rfl rfl
  · apply (agree _).labelGroup (.around ⟨1⟩) [] [] [⟨⟨0⟩, "knows"⟩]
    rw [List.forall_mem_singleton]
    exact ⟨_, rfl, rfl⟩
  · refine ((agree _).foreignLabels (.around ⟨1⟩) [] [] [⟨⟨1⟩, "knows"⟩] ?_).1
    rw [List.forall_mem_singleton]
    exact foreign

end Workspace

end PropertyGraph
