import PropertyGraph.Proofs.Json.Record
import PropertyGraph.Proofs.Value.Entries
import PropertyGraph.Proofs.Value.Reflexivity
import PropertyGraph.Value.Json

/-!
# Values read back

The text of a value without floats is read as the value, in whatever order the
entries of its maps are written.  Every level of arrays and maps takes two
levels of the text and a tagged leaf takes one more, which is what bounds how
deeply the value may nest.
-/

namespace PropertyGraph.Value

/--
No float occurs in the value, its arrays and maps nest at most so many levels
deep, and the entries of its maps are in the order of a map.
-/
inductive Plain : Nat → Value → Prop
  | string (levels : Nat) (text : String) : Plain levels (string text)
  | integer (levels : Nat) (number : Int64) : Plain levels (integer number)
  | boolean (levels : Nat) (flag : Bool) : Plain levels (boolean flag)
  | dateTime (levels : Nat) (milliseconds : Int64) : Plain levels (dateTime milliseconds)
  | null (levels : Nat) : Plain levels null
  | array {levels : Nat} {items : List Value} (each : ∀ item ∈ items, Plain levels item) :
      Plain (levels + 1) (array items)
  | map {levels : Nat} {entries : List (String × Value)} (ascending : Ascending entries)
      (each : ∀ entry ∈ entries, Plain levels entry.2) : Plain (levels + 1) (map entries)

/-- The second value lists the entries of the maps in the first one in any order. -/
inductive Rearranged : Value → Value → Prop
  | same (value : Value) : Rearranged value value
  | array (pairs : List (Value × Value)) (each : ∀ pair ∈ pairs, Rearranged pair.1 pair.2) :
      Rearranged (array (pairs.map Prod.fst)) (array (pairs.map Prod.snd))
  | map {entries : List (String × Value)} (pairs : List (String × Value × Value))
      (order : entries.Perm (pairs.map fun (key, held, _) => (key, held)))
      (each : ∀ pair ∈ pairs, Rearranged pair.2.1 pair.2.2) :
      Rearranged (map entries) (map (pairs.map fun (key, _, listed) => (key, listed)))

namespace Rearranged

variable {listed : Value}

/-- A rearranged array has its items rearranged. -/
theorem of_array {items : List Value} (rearranged : (Value.array items).Rearranged listed) :
    ∃ pairs : List (Value × Value), items = pairs.map Prod.fst ∧
      listed = .array (pairs.map Prod.snd) ∧ ∀ pair ∈ pairs, pair.1.Rearranged pair.2 := by
  cases rearranged with
  | same =>
      refine ⟨items.map fun item => (item, item), ?_, ?_, ?_⟩
      · simp [Function.comp_def]
      · simp [Function.comp_def]
      · simp only [List.forall_mem_map]
        exact fun item _ => .same item
  | array pairs each => exact ⟨pairs, rfl, rfl, each⟩

/-- A rearranged map has its entries in another order, with their values rearranged. -/
theorem of_map {entries : List (String × Value)}
    (rearranged : (Value.map entries).Rearranged listed) :
    ∃ pairs : List (String × Value × Value),
      entries.Perm (pairs.map fun (key, held, _) => (key, held)) ∧
        listed = .map (pairs.map fun (key, _, listed) => (key, listed)) ∧
        ∀ pair ∈ pairs, pair.2.1.Rearranged pair.2.2 := by
  cases rearranged with
  | same =>
      refine ⟨entries.map fun entry => (entry.1, entry.2, entry.2), ?_, ?_, ?_⟩
      · simp [List.map_map, Function.comp_def]
      · simp [List.map_map, Function.comp_def]
      · simp only [List.forall_mem_map]
        exact fun entry _ => .same entry.2
  | map pairs order each => exact ⟨pairs, order, rfl, each⟩

end Rearranged

theorem itemTrees_eq (items : List Value) : itemTrees items = items.map toJson := by
  induction items with
  | nil => rfl
  | cons item items ih => rw [itemTrees, ih, List.map_cons]

theorem entryTrees_eq (entries : List (String × Value)) :
    entryTrees entries = entries.map fun (key, held) => (some key, held.toJson) := by
  induction entries with
  | nil => rfl
  | cons entry entries ih => rw [entryTrees, ih, List.map_cons]

theorem tagged_eq (tag : String) (content : Json) :
    tagged tag content = .object [(some tag, content)] := rfl

theorem wellFormed_tagged {tag : String} {content : Json} (wellFormed : content.WellFormed) :
    (tagged tag content).WellFormed := by
  refine .ofMembers ?_
  simp only [List.forall_mem_cons]
  exact ⟨wellFormed, fun _ known => nomatch known⟩

variable {levels limit : Nat} {value listed : Value}

/-- A value without floats is written as a well-formed tree. -/
theorem Plain.wellFormed (plain : value.Plain levels) (rearranged : value.Rearranged listed) :
    listed.toJson.WellFormed := by
  induction plain generalizing listed with
  | string _ text =>
      cases rearranged
      exact wellFormed_tagged (.string _)
  | integer _ number =>
      cases rearranged
      exact wellFormed_tagged (.ofInt _)
  | boolean _ flag =>
      cases rearranged
      exact wellFormed_tagged (.boolean _)
  | dateTime _ milliseconds =>
      cases rearranged
      exact wellFormed_tagged (.ofInt _)
  | null _ =>
      cases rearranged
      exact .string _
  | array each ih =>
      obtain ⟨pairs, rfl, rfl, arranged⟩ := rearranged.of_array
      rw [toJson, itemTrees_eq, List.map_map]
      refine wellFormed_tagged (.array ?_)
      rw [List.forall_mem_map]
      exact fun pair known => ih pair.1 (List.mem_map_of_mem known) (arranged pair known)
  | map ascending each ih =>
      obtain ⟨pairs, order, rfl, arranged⟩ := rearranged.of_map
      rw [toJson, entryTrees_eq, List.map_map]
      refine wellFormed_tagged (.object ?_)
      rw [List.forall_mem_map]
      exact fun pair known =>
        ih _ (order.mem_iff.2 (List.mem_map_of_mem known)) (arranged pair known)

/-- With room for any level what stands under a tag is read, one level further in. -/
theorem enter_eq (room : 2 * levels + 1 < limit) : enter limit = some (limit - 1) :=
  if_neg (by omega)

/-- Items that are read back one by one are read back. -/
theorem ofItemTrees?_map {pairs : List (Value × Value)}
    (each : ∀ pair ∈ pairs, ofTree? limit pair.2.toJson = some pair.1) :
    ofItemTrees? limit (itemTrees (pairs.map Prod.snd)) = some (pairs.map Prod.fst) := by
  induction pairs with
  | nil => simp [itemTrees, ofItemTrees?]
  | cons pair pairs ih =>
      obtain ⟨first, others⟩ := List.forall_mem_cons.1 each
      simp only [List.map_cons, itemTrees, ofItemTrees?, first, ih others]

/-- Entries whose values are read back are read back in the order they are written. -/
theorem ofMembers?_map {pairs : List (String × Value × Value)}
    (each : ∀ pair ∈ pairs, ofTree? limit pair.2.2.toJson = some pair.2.1) :
    ofMembers? limit (entryTrees (pairs.map fun (key, _, listed) => (key, listed))) =
      some (pairs.map fun (key, held, _) => (key, held)) := by
  induction pairs with
  | nil => simp [entryTrees, ofMembers?]
  | cons pair pairs ih =>
      obtain ⟨first, others⟩ := List.forall_mem_cons.1 each
      simp only [List.map_cons, entryTrees, ofMembers?, first, ih others]

/-- The tree of a value without floats is read as the value within a limit that leaves room. -/
theorem Plain.ofTree?_toJson (plain : value.Plain levels) (rearranged : value.Rearranged listed)
    (room : 2 * levels + 1 < limit) : ofTree? limit listed.toJson = some value := by
  induction plain generalizing listed limit with
  | string _ text =>
      cases rearranged
      simp only [toJson, tagged_eq, ofTree?, enter_eq room]
      rfl
  | integer _ number =>
      cases rearranged
      simp only [toJson, tagged_eq, ofTree?, enter_eq room, Json.int64?_ofInt, Option.map_some]
  | boolean _ flag =>
      cases rearranged
      simp only [toJson, tagged_eq, ofTree?, enter_eq room]
      rfl
  | dateTime _ milliseconds =>
      cases rearranged
      simp only [toJson, tagged_eq, ofTree?, enter_eq room, Json.int64?_ofInt, Option.map_some]
  | null _ =>
      cases rearranged
      simp only [toJson, Json.ofText, ofTree?]
  | @array inner _ each ih =>
      obtain ⟨pairs, rfl, rfl, arranged⟩ := rearranged.of_array
      have inside : 2 * inner + 1 < limit - 1 := by omega
      have items : ofItemTrees? (limit - 1 - 1) (itemTrees (pairs.map Prod.snd)) =
          some (pairs.map Prod.fst) :=
        ofItemTrees?_map fun pair known =>
          ih pair.1 (List.mem_map_of_mem known) (arranged pair known) (by omega)
      simp only [toJson, tagged_eq, ofTree?, enter_eq room, enter_eq inside, items,
        Option.map_some]
  | @map inner _ ascending each ih =>
      obtain ⟨pairs, order, rfl, arranged⟩ := rearranged.of_map
      have inside : 2 * inner + 1 < limit - 1 := by omega
      have members : ofMembers? (limit - 1 - 1)
          (entryTrees (pairs.map fun (key, _, listed) => (key, listed))) =
            some (pairs.map fun (key, held, _) => (key, held)) :=
        ofMembers?_map fun pair known =>
          ih _ (order.mem_iff.2 (List.mem_map_of_mem known)) (arranged pair known) (by omega)
      simp only [toJson, tagged_eq, ofTree?, enter_eq room, enter_eq inside, members,
        Option.map_some, ofEntries_eq, ascending.arrange_eq order]

theorem itemsHoldNaN_eq_false {items : List Value}
    (each : ∀ item ∈ items, item.holdsNaN = false) : itemsHoldNaN items = false := by
  induction items with
  | nil => rfl
  | cons item items ih =>
      obtain ⟨first, others⟩ := List.forall_mem_cons.1 each
      rw [itemsHoldNaN, first, ih others, Bool.or_self]

theorem entriesHoldNaN_eq_false {entries : List (String × Value)}
    (each : ∀ entry ∈ entries, entry.2.holdsNaN = false) : entriesHoldNaN entries = false := by
  induction entries with
  | nil => rfl
  | cons entry entries ih =>
      obtain ⟨first, others⟩ := List.forall_mem_cons.1 each
      rw [entriesHoldNaN, first, ih others, Bool.or_self]

/-- Without floats there is no float that is no number. -/
theorem Plain.holdsNaN (plain : value.Plain levels) : value.holdsNaN = false := by
  induction plain with
  | array _ ih => exact itemsHoldNaN_eq_false ih
  | map _ _ ih => exact entriesHoldNaN_eq_false ih
  | _ => rfl

/-- The text is one that the value is written as, with the entries of its maps in any order. -/
def Written (value : Value) (text : String) : Prop :=
  ∃ listed, value.Rearranged listed ∧ listed.toJson.render = text

/--
Whatever text a value is written as, it is read back as the value, which equals
itself.  This holds of every value without floats whose arrays and maps nest
less than sixty levels deep; and no other such value is written as this text.
-/
theorem value_reread {text : String} (plain : value.Plain levels) (few : levels < 60)
    (written : value.Written text) :
    (Json.parse? text).bind ofJson? = some value ∧ value.equal value = true ∧
      ∀ (others : Nat) (other : Value), other.Plain others → others < 60 →
        other.Written text → other = value := by
  have reads {levels : Nat} {value : Value} (plain : value.Plain levels) (few : levels < 60)
      (written : value.Written text) : (Json.parse? text).bind ofJson? = some value := by
    obtain ⟨listed, rearranged, rfl⟩ := written
    rw [(plain.wellFormed rearranged).parse?_render, Option.bind_some, ofJson?]
    exact plain.ofTree?_toJson rearranged (by unfold nestingLimit; omega)
  refine ⟨reads plain few written, ?_, ?_⟩
  · rw [equal_self, plain.holdsNaN]
    rfl
  · intro others other plainToo fewToo writtenToo
    exact Option.some.inj ((reads plainToo fewToo writtenToo).symm.trans (reads plain few written))

def leastItems : Value := array [integer Int64.minValue, dateTime (-1), null, array [], map []]

/-- A map with the array under an escaped key. -/
def nestedValue : Value := map [("\"\n", leastItems), ("é", boolean true)]

/-- A text of the map, with the entries the other way round. -/
def nestedText : String :=
  "\x7b\"Map\":\x7b\"é\":\x7b\"Boolean\":true\x7d,\"\\\"\\n\":\x7b\"Array\":[" ++
    "\x7b\"Integer\":-9223372036854775808\x7d,\x7b\"DateTime\":-1\x7d,\"Null\"," ++
    "\x7b\"Array\":[]\x7d,\x7b\"Map\":\x7b\x7d\x7d]\x7d\x7d\x7d"

theorem plain_nestedValue : nestedValue.Plain 3 := by
  have items : leastItems.Plain 2 := by
    refine .array ?_
    simp only [List.forall_mem_cons]
    exact ⟨.integer _ _, .dateTime _ _, .null _, .array nofun, .map .nil nofun, nofun⟩
  refine .map (by decide) ?_
  simp only [List.forall_mem_cons]
  exact ⟨items, .boolean _ _, nofun⟩

theorem written_nestedValue : nestedValue.Written nestedText := by
  refine ⟨_, .map [("é", boolean true, boolean true), ("\"\n", leastItems, leastItems)]
    (.swap _ _ _) ?_, by decide +kernel⟩
  simp only [List.forall_mem_cons]
  exact ⟨.same _, .same _, nofun⟩

/-- The map is read back from this text, which no point in time is written as. -/
theorem value_reread_nested :
    (Json.parse? nestedText).bind ofJson? = some nestedValue ∧
      nestedValue.equal nestedValue = true ∧ ¬(dateTime (-1)).Written nestedText := by
  obtain ⟨read, equal, alone⟩ := value_reread plain_nestedValue (by decide) written_nestedValue
  refine ⟨read, equal, fun written => ?_⟩
  cases alone 0 (dateTime (-1)) (.dateTime _ _) (by decide) written

end PropertyGraph.Value
