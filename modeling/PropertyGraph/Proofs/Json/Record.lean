import Mathlib.Data.List.Nodup
import PropertyGraph.Json.Record
import PropertyGraph.Proofs.Json.Roundtrip

/-!
# Typed values read back

A value of a type is faithfully written if the typed reader takes its tree back
to it.  Through lists and records this comes down to the items and the fields;
an object with each field once gives the fields in the order they are asked for.
-/

namespace PropertyGraph.Json

/-- Values are written as well-formed trees, which the typed reader takes back to them. -/
structure Faithful {α : Type} (write : α → Json) (read? : Json → Option α) : Prop where
  wellFormed : ∀ value, (write value).WellFormed
  read : ∀ value, read? (write value) = some value

variable {α : Type} {write : α → Json} {read? : Json → Option α}

/-- The text of a faithfully written value is read as the value. -/
theorem Faithful.reread (faithful : Faithful write read?) (value : α) :
    (parse? (write value).render).bind read? = some value := by
  rw [(faithful.wellFormed value).parse?_render, Option.bind_some, faithful.read]

theorem mapM_eq_map {β : Type} {items : List α} {f : α → Option β} {g : α → β}
    (each : ∀ item ∈ items, f item = some (g item)) : items.mapM f = some (items.map g) := by
  induction items with
  | nil => rfl
  | cons item items ih =>
      have others := ih fun known later => each known (List.mem_cons_of_mem _ later)
      rw [List.mapM_cons, each item List.mem_cons_self, others]
      rfl

/-- A list is faithfully written if its items are. -/
theorem Faithful.list (faithful : Faithful write read?) :
    Faithful (fun items => array (items.map write)) (listOf? read?) where
  wellFormed items := by
    refine .array ?_
    intro item known
    obtain ⟨value, -, rfl⟩ := List.mem_map.1 known
    exact faithful.wellFormed value
  read items := by
    have read : ∀ value ∈ items, (read? ∘ write) value = some (id value) :=
      fun value _ => faithful.read value
    rw [listOf?, List.mapM_map, mapM_eq_map read, List.map_id]

theorem Faithful.text : Faithful ofText text? := ⟨fun _ => .string _, fun _ => rfl⟩

/-- The literal of an integer is an integer literal, also of the least and the greatest ones. -/
theorem integer?_ofInt (value : Int) :
    Number.integer? ⟨value < 0, value.natAbs, [], none⟩ = some value := by
  unfold Number.integer?
  by_cases negative : value < 0
  · have whole : ¬value.natAbs = 0 := by omega
    simp only [negative, whole, List.isEmpty_nil, decide_true, if_true, and_false,
      not_false_eq_true, and_self, Option.some.injEq]
    omega
  · simp only [negative, List.isEmpty_nil, decide_false, Bool.false_eq_true, if_false, false_and,
      not_false_eq_true, and_self, if_true, Option.some.injEq]
    omega

theorem word?_ofInt (word : UInt64) : (ofInt word.toNat).word? = some word := by
  rw [ofInt, word?, integer?_ofInt]
  exact (if_pos word.toNat_lt_size).trans (congrArg some UInt64.ofNat_toNat)

theorem int64?_ofInt (number : Int64) : (ofInt number.toInt).int64? = some number := by
  rw [ofInt, int64?, integer?_ofInt]
  exact (if_pos ⟨number.minValue_le_toInt, number.toInt_le⟩).trans
    (congrArg some number.ofInt_toInt)

/-- The value under a name is found if no name is given twice. -/
theorem member?_of_mem {members : List (Option String × Json)}
    (once : (members.map Prod.fst).Nodup) {name : String} {value : Json}
    (known : (some name, value) ∈ members) : member? members name = some (some value) := by
  have alone : members.filter (fun member => member.1 = some name) = [(some name, value)] := by
    induction members with
    | nil => cases known
    | cons member members ih =>
        rw [List.map_cons, List.nodup_cons] at once
        rcases List.mem_cons.1 known with rfl | later
        · have others : ∀ member ∈ members, ¬member.1 = some name :=
            fun member listed same => once.1 (List.mem_map.2 ⟨member, listed, same⟩)
          rw [List.filter_cons_of_pos (by simp), List.filter_eq_nil_iff.2 (by simpa using others)]
        · have other : ¬member.1 = some name :=
            fun same => once.1 (List.mem_map.2 ⟨_, later, same.symm⟩)
          rw [List.filter_cons_of_neg (by simpa using other), ih once.2 later]
  rw [member?, alone]

theorem ofMembers_eq (members : List (String × Json)) :
    ofMembers members = object (members.map fun member => (some member.1, member.2)) := rfl

/-- The members of an object under one name decide about the field. -/
theorem member?_named (members : List (String × Json)) (name : String) :
    member? (members.map fun member => (some member.1, member.2)) name =
      match members.filter fun member => member.1 = name with
      | [] => some none
      | [(_, value)] => some (some value)
      | _ => none := by
  rw [member?, List.filter_map]
  simp only [Function.comp_def, Option.some.injEq]
  generalize members.filter (fun member => member.1 = name) = found
  rcases found with _ | ⟨first, _ | ⟨second, others⟩⟩
  · rfl
  · rfl
  · rfl

/-- The fields of an object are looked for one by one. -/
theorem fields?_named (names : List String) (members : List (String × Json)) :
    (ofMembers members).fields? names =
      names.mapM (member? (members.map fun member => (some member.1, member.2))) := by
  rw [ofMembers_eq, fields?]
  exact if_pos (by simp)

/-- An object that gives each field once has all of them. -/
theorem fields?_ofMembers {members : List (String × Json)}
    (once : (members.map Prod.fst).Nodup) :
    (ofMembers members).fields? (members.map Prod.fst) =
      some (members.map fun member => some member.2) := by
  have named : (members.map fun member => (some member.1, member.2)).map Prod.fst =
      (members.map Prod.fst).map some := by
    rw [List.map_map, List.map_map]
    rfl
  have distinct : ((members.map fun member => (some member.1, member.2)).map Prod.fst).Nodup :=
    named ▸ once.map fun _ _ => Option.some.inj
  rw [fields?_named, List.mapM_map]
  refine mapM_eq_map ?_
  intro member known
  exact member?_of_mem distinct (List.mem_map.2 ⟨member, known, rfl⟩)

theorem mapM_eq_none {β : Type} {items : List α} {f : α → Option β} {item : α}
    (known : item ∈ items) (fails : f item = none) : items.mapM f = none := by
  induction items with
  | nil => cases known
  | cons first items ih =>
      rw [List.mapM_cons]
      rcases List.mem_cons.1 known with rfl | later
      · rw [fails]
        rfl
      · cases f first with
        | none => rfl
        | some read =>
            rw [ih later]
            rfl

/-- An object in which a field occurs twice has no fields. -/
theorem fields?_eq_none {names : List String} {members : List (String × Json)} {name : String}
    (known : name ∈ names) (twice : 1 < members.countP fun member => member.1 = name) :
    (ofMembers members).fields? names = none := by
  rw [List.countP_eq_length_filter] at twice
  rw [fields?_named]
  refine mapM_eq_none known ?_
  rw [member?_named]
  split
  next absent => simp [absent] at twice
  next single => simp [single] at twice
  next => rfl

end PropertyGraph.Json
