import PropertyGraph.Config.File
import PropertyGraph.Proofs.Catalog.Json

/-!
# Partial configurations

A JSON object that gives some settings of a configuration, in any order and
among any other members, is read as the standard configuration with these
settings overridden.  An object that gives one of them twice is refused.
-/

namespace PropertyGraph

open Json

theorem Json.Faithful.boolean : Faithful Json.boolean boolean? :=
  ⟨fun _ => .boolean _, fun _ => rfl⟩

namespace Config

inductive Setting where
  | autoSchema
  | vertexLabel
  | dataType
  | cardinality
  deriving DecidableEq

namespace Setting

def all : List Setting := [autoSchema, vertexLabel, dataType, cardinality]

def name : Setting → String
  | autoSchema => "auto_schema"
  | vertexLabel => "default_vertex_label"
  | dataType => "default_data_type"
  | cardinality => "default_cardinality"

def toJson (config : Config) : Setting → Json
  | autoSchema => .boolean config.autoSchema
  | vertexLabel => .ofText config.vertexLabel
  | dataType => .ofText config.dataType.name
  | cardinality => .ofText config.cardinality.name

theorem mem_all (setting : Setting) : setting ∈ all := by
  cases setting <;> decide

theorem eq_of_name {first second : Setting} (same : first.name = second.name) :
    first = second := by
  revert same
  cases first <;> cases second <;> decide

theorem name_mem_fieldNames (setting : Setting) : setting.name ∈ fieldNames :=
  List.mem_map_of_mem (f := name) (mem_all setting)

end Setting

def member (config : Config) (setting : Setting) : String × Json :=
  (setting.name, setting.toJson config)

/-- The standard configuration with the given settings of this one. -/
def overriding (config : Config) (given : List Setting) : Config where
  autoSchema := if .autoSchema ∈ given then config.autoSchema else standard.autoSchema
  vertexLabel := if .vertexLabel ∈ given then config.vertexLabel else standard.vertexLabel
  dataType := if .dataType ∈ given then config.dataType else standard.dataType
  cardinality := if .cardinality ∈ given then config.cardinality else standard.cardinality

/--
The members of an object give some settings of the configuration, each once and
in this order; any other members have names that no setting has.
-/
structure Gives (config : Config) (given : List Setting) (members : List (String × Json)) :
    Prop where
  once : given.Nodup
  known : members.filter (fun member => member.1 ∈ fieldNames) = given.map config.member

variable {config : Config} {given : List Setting} {members : List (String × Json)}

/-- Under the name of a setting there is its one member if it is given, and none if not. -/
theorem Gives.filter_name (gives : config.Gives given members) (setting : Setting) :
    members.filter (fun member => member.1 = setting.name) =
      if setting ∈ given then [config.member setting] else [] := by
  have named : (fun member : String × Json => decide (member.1 = setting.name)) =
      fun member => decide (member.1 = setting.name) && decide (member.1 ∈ fieldNames) := by
    funext member
    rw [Bool.eq_iff_iff, Bool.and_eq_true, decide_eq_true_eq, decide_eq_true_eq]
    exact ⟨fun same => ⟨same, same ▸ setting.name_mem_fieldNames⟩, And.left⟩
  have same : ((fun member : String × Json => decide (member.1 = setting.name)) ∘ config.member) =
      fun other => decide (other = setting) := by
    funext other
    exact decide_eq_decide.2 ⟨Setting.eq_of_name, congrArg Setting.name⟩
  rw [named, ← List.filter_filter, gives.known, List.filter_map, same, List.filter_eq,
    gives.once.count]
  by_cases known : setting ∈ given
  · rw [if_pos known, if_pos known]
    rfl
  · rw [if_neg known, if_neg known]
    rfl

/-- The fields of the object are the settings that it gives. -/
theorem Gives.fields?_eq (gives : config.Gives given members) :
    (ofMembers members).fields? fieldNames =
      some (Setting.all.map fun setting =>
        if setting ∈ given then some (setting.toJson config) else none) := by
  have names : fieldNames = Setting.all.map Setting.name := rfl
  rw [fields?_named, names, List.mapM_map]
  refine mapM_eq_map ?_
  intro setting _
  rw [Function.comp_apply, member?_named, gives.filter_name setting]
  by_cases known : setting ∈ given
  · rw [if_pos known, if_pos known]
    rfl
  · rw [if_neg known, if_neg known]

/-- A setting that is given is read, and one that is not has its standard value. -/
theorem setting?_eq {α : Type} {write : α → Json} {read? : Json → Option α}
    (faithful : Faithful write read?) (value standard : α) (given : Prop) [Decidable given] :
    setting? read? standard (if given then some (write value) else none) =
      some (if given then value else standard) := by
  split
  next => exact faithful.read value
  next => rfl

/-- An object that gives some settings is read as the configuration that they override. -/
theorem Gives.ofJson?_eq (gives : config.Gives given members) :
    ofJson? (ofMembers members) = some (config.overriding given) := by
  have fields := gives.fields?_eq
  simp only [Setting.all, List.map_cons, List.map_nil, Setting.toJson] at fields
  simp only [ofJson?, fields, setting?_eq Faithful.boolean, setting?_eq Faithful.text,
    setting?_eq DataType.faithful, setting?_eq Cardinality.faithful]
  rfl

/-- With all settings given nothing is left to the standard configuration. -/
theorem overriding_of_forall_mem (all : ∀ setting, setting ∈ given) :
    config.overriding given = config := by
  simp only [overriding, if_pos (all _)]

/-- A written configuration gives all settings. -/
theorem gives_toJson (config : Config) :
    config.Gives Setting.all (Setting.all.map config.member) where
  once := by decide
  known := by
    rw [List.filter_eq_self]
    intro member listed
    obtain ⟨setting, -, rfl⟩ := List.mem_map.1 listed
    exact decide_eq_true setting.name_mem_fieldNames

/-- A configuration is written as its members and read back from them. -/
theorem faithful : Faithful toJson ofJson? where
  wellFormed config := by
    refine .ofMembers ?_
    simp only [List.forall_mem_cons]
    exact ⟨.boolean _, .string _, .string _, .string _, fun _ known => nomatch known⟩
  read config := by
    have same : config.overriding Setting.all = config := overriding_of_forall_mem Setting.mem_all
    exact (gives_toJson config).ofJson?_eq.trans (congrArg some same)

theorem ofJsonText_eq_ok {text : String} {json : Json} (denotes : parse? text = some json)
    (read : ofJson? json = some config) : ofJsonText text = .ok config := by
  rw [ofJsonText, denotes, Option.bind_some, read]

theorem ofJsonText_eq_error {text : String} {json : Json} (denotes : parse? text = some json)
    (refused : ofJson? json = none) : ofJsonText text = .error .malformed := by
  rw [ofJsonText, denotes, Option.bind_some, refused]

/-- An object that gives a setting twice is no configuration. -/
theorem ofJson?_eq_none {setting : Setting}
    (twice : 1 < members.countP fun member => member.1 = setting.name) :
    ofJson? (ofMembers members) = none := by
  rw [ofJson?, fields?_eq_none setting.name_mem_fieldNames twice]

/-- The setting that an object gives already is given twice when it is given again. -/
theorem Gives.countP_again {before after : List (String × Json)} {setting : Setting} {again : Json}
    (gives : config.Gives given (before ++ after)) (known : setting ∈ given) :
    1 < (before ++ (setting.name, again) :: after).countP
      fun member => member.1 = setting.name := by
  have single := congrArg List.length (gives.filter_name setting)
  rw [if_pos known, ← List.countP_eq_length_filter, List.countP_append] at single
  rw [List.countP_append, List.countP_cons_of_pos (by simp)]
  exact Nat.lt_of_lt_of_eq (by simp) (congrArg Nat.succ single.symm)

/--
Every text of an object that gives some settings of a configuration is read as
the standard configuration with these settings overridden, which is the
configuration itself if all are given; so reading undoes writing.  The object is
refused once a setting that it gives is given again, whatever its value and
wherever it stands.  Every object of well-formed members has such a text.
-/
theorem given_settings_override :
    (∀ (config : Config) (given : List Setting) (members : List (String × Json)) (text : String),
      config.Gives given members → parse? text = some (ofMembers members) →
        ofJsonText text = .ok (config.overriding given)) ∧
    (∀ (config : Config) (given : List Setting), (∀ setting, setting ∈ given) →
      config.overriding given = config) ∧
    (∀ config : Config, ofJsonText config.toJson.render = .ok config) ∧
    (∀ (config : Config) (given : List Setting) (before after : List (String × Json))
      (setting : Setting) (again : Json) (text : String),
      config.Gives given (before ++ after) → setting ∈ given →
        parse? text = some (ofMembers (before ++ (setting.name, again) :: after)) →
          ofJsonText text = .error .malformed) ∧
    (∀ members : List (String × Json), (∀ member ∈ members, member.2.WellFormed) →
      parse? (ofMembers members).render = some (ofMembers members)) := by
  refine ⟨?_, fun _ _ => overriding_of_forall_mem, ?_, ?_, ?_⟩
  · intro config given members text gives denotes
    exact ofJsonText_eq_ok denotes gives.ofJson?_eq
  · intro config
    exact ofJsonText_eq_ok (faithful.wellFormed config).parse?_render (faithful.read config)
  · intro config given before after setting again text gives known denotes
    exact ofJsonText_eq_error denotes (ofJson?_eq_none (gives.countP_again known))
  · intro members wellFormed
    exact (WellFormed.ofMembers wellFormed).parse?_render

def escapedLabel : Config := ⟨false, "\"é", .string, .list⟩

/-- Two of its settings among other members, one of them nested and one without a name. -/
def partialMembers : List (String × Json) :=
  [("note", .array [.number ⟨true, 0, ['5'], none⟩, .object [(some "auto_schema", .null)]]),
    ("default_vertex_label", .ofText "\"é"), ("auto_schema", .boolean false), ("", .null)]

def partialText : String :=
  "\x7b\"note\":[-0.5,\x7b\"auto_schema\":null\x7d],\"default_vertex_label\":\"\\\"é\"," ++
    "\"auto_schema\":false,\"\":null\x7d"

/-- The text of a setting that is given as false and as one, with another member between. -/
def repeatedText : String := "\x7b\"auto_schema\":false,\"Auto_schema\":[],\"auto_schema\":1\x7d"

theorem gives_partialMembers :
    escapedLabel.Gives [.vertexLabel, .autoSchema] partialMembers where
  once := by decide
  known := by rfl

theorem wellFormed_partialMembers : ∀ member ∈ partialMembers, member.2.WellFormed := by
  have inner : WellFormed (.object [(some "auto_schema", .null)]) := by
    refine .object ?_
    simp only [List.forall_mem_cons]
    exact ⟨.null, nofun⟩
  simp only [partialMembers, List.forall_mem_cons]
  refine ⟨.array ?_, .string _, .boolean _, .null, nofun⟩
  simp only [List.forall_mem_cons]
  exact ⟨.number (List.forall_mem_singleton.2 rfl), inner, nofun⟩

/-- Two settings are read from the one text; the other is refused since it repeats a setting. -/
theorem given_settings_override_escaped :
    ofJsonText partialText = .ok ⟨false, "\"é", .object, .single⟩ ∧
      escapedLabel.overriding [.cardinality, .vertexLabel, .dataType, .autoSchema] =
        escapedLabel ∧
      ofJsonText repeatedText = .error .malformed := by
  obtain ⟨overrides, all, -, refuses, renders⟩ := given_settings_override
  have partially : (ofMembers partialMembers).render = partialText := by decide +kernel
  have repeatedly : (ofMembers [("auto_schema", .boolean false), ("Auto_schema", .array []),
      ("auto_schema", .number ⟨false, 1, [], none⟩)]).render = repeatedText := by decide +kernel
  refine ⟨?_, all _ _ ?_, ?_⟩
  · exact overrides _ _ _ _ gives_partialMembers
      (partially ▸ renders _ wellFormed_partialMembers)
  · intro setting
    cases setting <;> decide
  · have gives : escapedLabel.Gives [.autoSchema]
        [("auto_schema", .boolean false), ("Auto_schema", .array [])] := ⟨by decide, by rfl⟩
    refine refuses _ _ [_, _] [] .autoSchema _ _ gives (by decide) (repeatedly ▸ renders _ ?_)
    simp only [List.forall_mem_cons]
    exact ⟨.boolean _, .array nofun, .number nofun, nofun⟩

example : ofJsonText
    "\x7b \"default_data_type\" :\n\"Float\", \"x\": [ ], \"auto\\u005fschema\":false\x7d " =
      .ok ⟨false, "vertex", .float, .single⟩ := by
  decide +kernel

end Config

end PropertyGraph
