import PropertyGraph.Json.Parser
import PropertyGraph.Json.Printer

/-!
# Strings read back

Every character is written as one element of a string: as itself, as a
one-letter escape or, if it is a control character without one, as a UTF-16
unit.  Such a unit is no half of a surrogate pair, so the elements before and
behind it do not change what it denotes.
-/

namespace PropertyGraph.Json

/-- The written characters are read as one element of a string, which denotes the character. -/
structure Writes (written : List Char) (part : StringPart) (c : Char) : Prop where
  read : ∀ rest, stringParts? (written ++ rest) =
    (stringParts? rest).map fun (parts, after) => (part :: parts, after)
  joined : ∀ parts, joinParts? (part :: parts) = (joinParts? parts).map (c :: ·)

theorem hexValue?_hexDigit : ∀ number, number < 16 → hexValue? (hexDigit number) = some number := by
  decide

/-- The escape of a UTF-16 unit is read as this unit. -/
theorem stringParts?_unitEscape {unit : Nat} (small : unit < 0x10000) (rest : List Char) :
    stringParts? (unitEscape unit ++ rest) =
      (stringParts? rest).map fun (parts, after) => (.unit unit :: parts, after) := by
  have digit (number : Nat) : hexValue? (hexDigit (number % 16)) = some (number % 16) :=
    hexValue?_hexDigit _ (Nat.mod_lt _ (by decide))
  have sum : unit / 4096 % 16 * 4096 + unit / 256 % 16 * 256 + unit / 16 % 16 * 16 + unit % 16 =
      unit := by
    omega
  simp only [unitEscape, List.cons_append, List.nil_append, stringParts?, digit, sum]

/-- A UTF-16 unit that is no half of a surrogate pair denotes a character by itself. -/
theorem joinParts?_unit {unit : Nat} (high : isHighSurrogate unit = false)
    (low : isLowSurrogate unit = false) (parts : List StringPart) :
    joinParts? (.unit unit :: parts) = (joinParts? parts).map (Char.ofNat unit :: ·) := by
  cases parts with
  | nil => simp [joinParts?, high, low]
  | cons part parts =>
      cases part with
      | char c => simp [joinParts?, high, low]
      | unit next => simp [joinParts?, high, low]

namespace Writes

/-- A one-letter escape. -/
theorem letter {mark c : Char} (named : escaped? mark = some c) :
    Writes ['\\', mark] (.char c) c where
  read rest := by
    have short : mark ≠ 'u' := by
      rintro rfl
      exact Option.some_ne_none c named.symm
    rw [List.cons_append, List.cons_append, List.nil_append,
      stringParts?.eq_4 _ _ (fun _ _ _ _ _ same _ => short same)]
    simp only [named]
  joined _ := rfl

/-- A control character without a one-letter escape. -/
theorem control {c : Char} (control : c.toNat < 0x20) :
    Writes (unitEscape c.toNat) (.unit c.toNat) c where
  read := stringParts?_unitEscape (by omega)
  joined parts := by
    have high : isHighSurrogate c.toNat = false := by
      simp only [isHighSurrogate, Bool.and_eq_false_iff, decide_eq_false_iff_not]
      omega
    have low : isLowSurrogate c.toNat = false := by
      simp only [isLowSurrogate, Bool.and_eq_false_iff, decide_eq_false_iff_not]
      omega
    rw [joinParts?_unit high low, Char.ofNat_toNat]

/-- Any other character but a quote and a backslash. -/
theorem plain {c : Char} (quote : c ≠ '\"') (backslash : c ≠ '\\') (plain : ¬c.toNat < 0x20) :
    Writes [c] (.char c) c where
  read rest := by
    rw [List.cons_append, List.nil_append, stringParts?.eq_5 _ _ quote
      (fun _ _ _ _ _ same _ => backslash same) (fun _ _ same _ => backslash same)]
    exact if_neg (not_or_intro plain backslash)
  joined _ := rfl

end Writes

/-- Every character is written as one element, which denotes it. -/
theorem writes_escape (c : Char) : ∃ part, Writes (escape c) part c := by
  unfold escape
  split
  case h_8 quote backslash _ _ _ _ _ =>
    split
    next control => exact ⟨_, .control control⟩
    next printed => exact ⟨_, .plain quote backslash printed⟩
  all_goals exact ⟨_, .letter rfl⟩

/-- The elements of a written text denote the text. -/
theorem stringParts?_flatMap_escape (text rest : List Char) :
    ∃ parts, stringParts? (text.flatMap escape ++ '\"' :: rest) = some (parts, rest) ∧
      joinParts? parts = some text := by
  induction text with
  | nil => exact ⟨[], by simp [stringParts?], rfl⟩
  | cons c text ih =>
      obtain ⟨parts, read, joined⟩ := ih
      obtain ⟨part, writes⟩ := writes_escape c
      refine ⟨part :: parts, ?_, ?_⟩
      · rw [List.flatMap_cons, List.append_assoc, writes.read, read, Option.map_some]
      · rw [writes.joined, joined, Option.map_some]

/-- A string is read back as far as its closing quote, also one that denotes no text. -/
theorem string?_quoted (text : Option String) :
    ∃ body, quoted text = '\"' :: body ∧ ∀ rest, string? (body ++ rest) = some (text, rest) := by
  cases text with
  | none =>
      refine ⟨_, rfl, ?_⟩
      intro rest
      have closed : stringParts? ('\"' :: rest) = some ([], rest) := by simp [stringParts?]
      rw [string?, List.append_assoc, stringParts?_unitEscape (by decide)]
      simp [closed, joinParts?, isHighSurrogate]
  | some text =>
      refine ⟨_, rfl, ?_⟩
      intro rest
      obtain ⟨parts, read, joined⟩ := stringParts?_flatMap_escape text.toList rest
      rw [string?, List.append_assoc, List.singleton_append, read]
      simp [joined]

end PropertyGraph.Json
