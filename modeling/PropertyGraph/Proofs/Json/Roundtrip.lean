import PropertyGraph.Proofs.Json.Number
import PropertyGraph.Proofs.Json.Quoted

/-!
# Trees read back

The compact text of a tree is read as the tree.  What is written behind a value
inside a container is a comma or a closing mark, which continues no number; and
two steps for each character are enough.
-/

namespace PropertyGraph.Json

/-- The fraction of every number literal of the tree consists of digits. -/
inductive WellFormed : Json → Prop
  | null : WellFormed null
  | boolean (flag : Bool) : WellFormed (boolean flag)
  | number {literal : Number} (digits : ∀ c ∈ literal.fraction, c.isDigit = true) :
      WellFormed (number literal)
  | string (text : Option String) : WellFormed (string text)
  | array {items : List Json} (each : ∀ item ∈ items, WellFormed item) : WellFormed (array items)
  | object {members : List (Option String × Json)}
      (each : ∀ member ∈ members, WellFormed member.2) : WellFormed (object members)

theorem WellFormed.ofInt (value : Int) : (ofInt value).WellFormed :=
  .number fun _ known => nomatch known

theorem WellFormed.ofMembers {members : List (String × Json)}
    (each : ∀ member ∈ members, member.2.WellFormed) : (ofMembers members).WellFormed := by
  refine .object ?_
  intro member known
  obtain ⟨named, listed, rfl⟩ := List.mem_map.1 known
  exact each named listed

/-- The tree's text is read as the tree, whatever follows that goes on with no number. -/
structure ReadBack (json : Json) : Prop where
  read : ∀ (fuel : Nat) (rest : List Char), 2 * json.chars.length ≤ fuel →
    rest.head?.any continuesNumber = false → value? fuel (json.chars ++ rest) = some (json, rest)

variable {fuel : Nat} {rest : List Char}

theorem skipBlank_cons {c : Char} (mark : isBlank c = false) (rest : List Char) :
    skipBlank (c :: rest) = c :: rest := by
  rw [skipBlank, List.dropWhile_cons_of_neg (by simp [mark])]

/-- The blanks, and the marks that begin other values than numbers or close an array. -/
def foreignMarks : List Char := [' ', '\t', '\n', '\r', ']', 'n', 't', 'f', '\"', '[', '\x7b']

/-- A number begins with none of them. -/
theorem ne_of_foreign {c : Char} (first : c = '-' ∨ c.isDigit = true) (mark : Char)
    (foreign : mark ∈ foreignMarks) : c ≠ mark := by
  have table : foreignMarks.all (fun mark => !(mark = '-' || mark.isDigit)) = true := rfl
  have other := List.all_eq_true.1 table mark foreign
  rw [Bool.not_eq_true', Bool.or_eq_false_iff, decide_eq_false_iff_not] at other
  rintro rfl
  rcases first with sign | digit
  · exact other.1 sign
  · exact Bool.false_ne_true (other.2.symm.trans digit)

/-- The text of a tree begins with a mark that closes no array. -/
theorem chars_eq_cons (json : Json) :
    ∃ c more, json.chars = c :: more ∧ isBlank c = false ∧ c ≠ ']' := by
  cases json with
  | null => exact ⟨_, _, rfl, rfl, by decide⟩
  | boolean flag => cases flag <;> exact ⟨_, _, rfl, rfl, by decide⟩
  | number literal =>
      obtain ⟨c, more, written, first⟩ := literal.chars_eq_cons
      have other := ne_of_foreign first
      refine ⟨c, more, written, ?_, other ']' (by decide)⟩
      simp only [isBlank, other ' ' (by decide), other '\t' (by decide), other '\n' (by decide),
        other '\r' (by decide), decide_false, Bool.or_self]
  | string text =>
      obtain ⟨body, written, -⟩ := string?_quoted text
      exact ⟨_, _, written, rfl, by decide⟩
  | array items => exact ⟨_, _, rfl, rfl, by decide⟩
  | object members => exact ⟨_, _, rfl, rfl, by decide⟩

theorem itemChars_eq_cons (item : Json) (items : List Json) :
    ∃ c more, itemChars (item :: items) = c :: more ∧ isBlank c = false ∧ c ≠ ']' := by
  obtain ⟨c, more, written, mark⟩ := chars_eq_cons item
  cases items with
  | nil => exact ⟨c, more, written, mark⟩
  | cons other items =>
      rw [itemChars, written]
      exact ⟨c, _, rfl, mark⟩

theorem memberChars_eq_cons (name : Option String) (value : Json)
    (members : List (Option String × Json)) :
    ∃ more, memberChars ((name, value) :: members) = '\"' :: more := by
  obtain ⟨body, written, -⟩ := string?_quoted name
  cases members with
  | nil => exact ⟨_, by rw [memberChars, written, List.cons_append]⟩
  | cons other members => exact ⟨_, by rw [memberChars, written, List.cons_append]⟩

theorem skipBlank_chars (json : Json) (rest : List Char) :
    skipBlank (json.chars ++ rest) = json.chars ++ rest := by
  obtain ⟨c, more, written, mark, -⟩ := chars_eq_cons json
  rw [written, List.cons_append, skipBlank_cons mark]

/-- Every text takes at least one step. -/
theorem ReadBack.intro {json : Json} (read : ∀ fuel rest, 2 * json.chars.length ≤ fuel + 1 →
    rest.head?.any continuesNumber = false →
    value? (fuel + 1) (json.chars ++ rest) = some (json, rest)) : json.ReadBack where
  read fuel rest enough ends := by
    cases fuel with
    | zero =>
        obtain ⟨c, more, written, -⟩ := chars_eq_cons json
        rw [written, List.length_cons] at enough
        omega
    | succ fuel => exact read fuel rest enough ends

theorem ReadBack.number {literal : Number} (digits : ∀ c ∈ literal.fraction, c.isDigit = true) :
    (number literal).ReadBack := by
  refine .intro fun fuel rest _ ends => ?_
  obtain ⟨c, more, written, first⟩ := literal.chars_eq_cons
  have apart {mark : Char} {text : List Char} (foreign : mark ∈ foreignMarks)
      (same : literal.chars ++ rest = mark :: text) : False := by
    rw [written, List.cons_append] at same
    exact ne_of_foreign first mark foreign (List.cons.inj same).1
  rw [chars, value?.eq_8 _ _ (fun _ => apart (by decide)) (fun _ => apart (by decide))
    (fun _ => apart (by decide)) (fun _ => apart (by decide)) (fun _ => apart (by decide))
    (fun _ => apart (by decide)), number?_chars digits ends]
  rfl

theorem ReadBack.string (text : Option String) : (string text).ReadBack := by
  refine .intro fun fuel rest _ _ => ?_
  obtain ⟨body, written, read⟩ := string?_quoted text
  rw [chars, written, List.cons_append, value?, read]
  rfl

/-- Items that are read back are read up to the closing bracket. -/
theorem items?_itemChars (fuel : Nat) (rest : List Char) {item : Json} {items : List Json}
    (each : ∀ known ∈ item :: items, known.ReadBack)
    (enough : 2 * (itemChars (item :: items)).length + 1 ≤ fuel) :
    items? fuel (itemChars (item :: items) ++ ']' :: rest) = some (item :: items, rest) := by
  induction items generalizing item fuel with
  | nil =>
      obtain ⟨fuel, rfl⟩ := Nat.exists_eq_add_one.2 (Nat.lt_of_lt_of_le (Nat.succ_pos _) enough)
      have read := (each item List.mem_cons_self).read fuel (']' :: rest)
        (Nat.le_of_succ_le_succ enough) rfl
      rw [itemChars, items?, skipBlank_chars, read]
      rfl
  | cons other items ih =>
      obtain ⟨fuel, rfl⟩ := Nat.exists_eq_add_one.2 (Nat.lt_of_lt_of_le (Nat.succ_pos _) enough)
      rw [itemChars, List.length_append, List.length_cons] at enough
      have read := (each item List.mem_cons_self).read fuel
        (',' :: (itemChars (other :: items) ++ ']' :: rest)) (by omega) rfl
      have others := ih fuel (fun known later => each known (List.mem_cons_of_mem _ later))
        (by omega)
      rw [itemChars, items?, List.append_assoc, List.cons_append, skipBlank_chars, read]
      simp only [skipBlank_cons (c := ',') rfl, others, Option.map_some]

/-- A member and those behind the mark that follows its value. -/
def fromMember? (fuel : Nat) (name : Option String) (value : Json) (text : List Char) :
    Option (List (Option String × Json) × List Char) :=
  match skipBlank text with
  | '\x7d' :: rest => some ([(name, value)], rest)
  | ',' :: rest =>
    (members? fuel rest).map fun (members, rest) => ((name, value) :: members, rest)
  | _ => none

/-- A member is read up to the mark behind its value, which decides how to go on. -/
theorem members?_member (name : Option String) {value : Json}
    (read : value? fuel (value.chars ++ rest) = some (value, rest)) :
    members? (fuel + 1) (quoted name ++ ':' :: (value.chars ++ rest)) =
      fromMember? fuel name value rest := by
  obtain ⟨body, written, named⟩ := string?_quoted name
  rw [written, members?]
  simp only [List.cons_append, skipBlank_cons (c := '\"') rfl, named,
    skipBlank_cons (c := ':') rfl, skipBlank_chars, read]
  rfl

/-- Members whose values are read back are read up to the closing brace. -/
theorem members?_memberChars (fuel : Nat) (rest : List Char) {name : Option String} {value : Json}
    {members : List (Option String × Json)}
    (each : ∀ known ∈ (name, value) :: members, known.2.ReadBack)
    (enough : 2 * (memberChars ((name, value) :: members)).length + 1 ≤ fuel) :
    members? fuel (memberChars ((name, value) :: members) ++ '\x7d' :: rest) =
      some ((name, value) :: members, rest) := by
  have first : value.ReadBack := each _ List.mem_cons_self
  obtain ⟨fuel, rfl⟩ := Nat.exists_eq_add_one.2 (Nat.lt_of_lt_of_le (Nat.succ_pos _) enough)
  induction members generalizing name value fuel with
  | nil =>
      rw [memberChars, List.length_append, List.length_cons] at enough
      have read := first.read fuel ('\x7d' :: rest) (by omega) rfl
      rw [memberChars, List.append_assoc, List.cons_append, members?_member name read]
      rfl
  | cons other members ih =>
      obtain ⟨otherName, otherValue⟩ := other
      rw [memberChars, List.length_append, List.length_cons, List.length_append,
        List.length_cons] at enough
      have later : ∀ known ∈ (otherName, otherValue) :: members, known.2.ReadBack :=
        fun known listed => each known (List.mem_cons_of_mem _ listed)
      obtain ⟨less, rfl⟩ := Nat.exists_eq_add_one.2 (by omega : 0 < fuel)
      have read := first.read (less + 1)
        (',' :: (memberChars ((otherName, otherValue) :: members) ++ '\x7d' :: rest)) (by omega) rfl
      have others := ih later (later _ List.mem_cons_self) less (by omega)
      rw [memberChars, List.append_assoc, List.cons_append, List.append_assoc, List.cons_append,
        members?_member name read, fromMember?]
      simp only [skipBlank_cons (c := ',') rfl, others, Option.map_some]

/-- An array is read back if its items are. -/
theorem ReadBack.array {items : List Json} (each : ∀ item ∈ items, item.ReadBack) :
    (array items).ReadBack := by
  refine .intro fun fuel rest enough _ => ?_
  rw [chars, List.length_cons, List.length_append] at enough
  rw [chars, List.cons_append, List.append_assoc, List.singleton_append, value?]
  cases items with
  | nil => rfl
  | cons item items =>
      have read := items?_itemChars fuel rest each (by omega)
      obtain ⟨c, more, written, mark, opens⟩ := itemChars_eq_cons item items
      rw [written, List.cons_append] at read ⊢
      rw [skipBlank_cons mark]
      split
      next closed => exact absurd (List.cons.inj closed).1 opens
      next => rw [read, Option.map_some]

/-- An object is read back if the values of its members are. -/
theorem ReadBack.object {members : List (Option String × Json)}
    (each : ∀ member ∈ members, member.2.ReadBack) : (object members).ReadBack := by
  refine .intro fun fuel rest enough _ => ?_
  rw [chars, List.length_cons, List.length_append] at enough
  rw [chars, List.cons_append, List.append_assoc, List.singleton_append, value?]
  cases members with
  | nil => rfl
  | cons member members =>
      obtain ⟨name, value⟩ := member
      have read := members?_memberChars fuel rest each (by omega)
      obtain ⟨more, written⟩ := memberChars_eq_cons name value members
      rw [written, List.cons_append] at read ⊢
      rw [skipBlank_cons (by decide)]
      split
      next closed => exact absurd (List.cons.inj closed).1 (by decide)
      next => rw [read, Option.map_some]

/-- The text of every well-formed tree is read as the tree. -/
theorem WellFormed.readBack {json : Json} (wellFormed : json.WellFormed) : json.ReadBack := by
  induction wellFormed with
  | null => exact .intro fun _ _ _ _ => rfl
  | boolean flag =>
      cases flag with
      | true => exact .intro fun _ _ _ _ => rfl
      | false => exact .intro fun _ _ _ _ => rfl
  | number digits => exact .number digits
  | string text => exact .string text
  | array _ ih => exact .array ih
  | object _ ih => exact .object ih

/-- The rendered text of every well-formed tree is parsed to the tree. -/
theorem WellFormed.parse?_render {json : Json} (wellFormed : json.WellFormed) :
    parse? json.render = some json := by
  have read := wellFormed.readBack.read (2 * json.chars.length + 1) [] (by omega) rfl
  have opened := skipBlank_chars json []
  rw [List.append_nil] at read opened
  simp only [parse?, render, String.toList_ofList, opened, read]
  rfl

end PropertyGraph.Json
