import PropertyGraph.Json.Parser
import PropertyGraph.Json.Printer

/-!
# Number literals read back

The reader takes digits for as long as there are any.  So a written literal is
read back if nothing behind it could be taken for a part of it, and no digit of
its whole part is lost: only zero is written with a leading zero.
-/

namespace PropertyGraph.Json

variable {rest : List Char}

/-- Whether a character behind the digits of a whole part could be taken for a part of them. -/
def continuesWhole (c : Char) : Bool := c.isDigit || c = '.'

/-- Whether a character behind a number could be taken for a part of it. -/
def continuesNumber (c : Char) : Bool := continuesWhole c || c = 'e' || c = 'E'

/-- A text that does not begin with any of some characters begins with none of fewer. -/
theorem head_any_eq_false {p q : Char → Bool} (fewer : ∀ c, p c = true → q c = true)
    (ends : rest.head?.any q = false) : rest.head?.any p = false := by
  cases rest with
  | nil => rfl
  | cons c rest =>
      have outside : q c = false := ends
      exact Bool.eq_false_iff.2 fun inside => Bool.eq_false_iff.1 outside (fewer c inside)

/-- What follows a number does not go on with its whole part. -/
theorem head_any_continuesWhole (ends : rest.head?.any continuesNumber = false) :
    rest.head?.any continuesWhole = false :=
  head_any_eq_false (fun c inside => by simp [continuesNumber, inside]) ends

/-- What follows a whole part does not begin with a digit. -/
theorem head_any_isDigit (ends : rest.head?.any continuesWhole = false) :
    rest.head?.any Char.isDigit = false :=
  head_any_eq_false (fun c inside => by simp [continuesWhole, inside]) ends

/-- Digits are read up to the first other character. -/
theorem digits_append {leading : List Char} (all : ∀ c ∈ leading, c.isDigit = true)
    (next : rest.head?.any Char.isDigit = false) : digits (leading ++ rest) = (leading, rest) := by
  have stops : rest.takeWhile Char.isDigit = [] ∧ rest.dropWhile Char.isDigit = rest := by
    cases rest with
    | nil => exact ⟨rfl, rfl⟩
    | cons c rest =>
        have other : c.isDigit = false := next
        simp [other]
  rw [digits, List.takeWhile_append_of_pos all, List.dropWhile_append_of_pos all, stops.1, stops.2,
    List.append_nil]

theorem toDigits_isDigit (number : Nat) : ∀ c ∈ Nat.toDigits 10 number, c.isDigit = true :=
  fun _ known => Nat.isDigit_of_mem_toDigits (by decide) (by decide) known

/-- A number is written with at least one digit. -/
theorem toDigits_eq_cons (number : Nat) :
    ∃ digit more, Nat.toDigits 10 number = digit :: more ∧ digit.isDigit = true := by
  obtain ⟨digit, more, written⟩ :=
    List.exists_cons_of_ne_nil (Nat.toDigits_ne_nil (n := number) (b := 10))
  exact ⟨digit, more, written, toDigits_isDigit number digit (written ▸ List.mem_cons_self)⟩

/-- Only zero is written with a leading zero. -/
theorem eq_zero_of_toDigits {number : Nat} {more : List Char}
    (written : Nat.toDigits 10 number = '0' :: more) : number = 0 := by
  induction number using Nat.strongRecOn generalizing more with
  | ind number ih =>
      rw [Nat.toDigits_eq_if (by decide)] at written
      split at written
      next small =>
        have table : ∀ digit, digit < 10 → Nat.digitChar digit = '0' → digit = 0 := by decide
        exact table number small (List.cons.inj written).1
      next large =>
        obtain ⟨digit, front, leading, -⟩ := toDigits_eq_cons (number / 10)
        rw [leading, List.cons_append] at written
        have zero := ih (number / 10) (by omega) ((List.cons.inj written).1 ▸ leading)
        omega

/-- The digits of a whole part are read back. -/
theorem whole?_toDigits (whole : Nat) (next : rest.head?.any Char.isDigit = false) :
    whole? (Nat.toDigits 10 whole ++ rest) = some (whole, rest) := by
  by_cases zero : whole = 0
  · subst zero
    rfl
  · have leading : ∀ text, Nat.toDigits 10 whole ++ rest = '0' :: text → False := by
      intro text same
      obtain ⟨digit, more, written, -⟩ := toDigits_eq_cons whole
      rw [written, List.cons_append] at same
      exact zero (eq_zero_of_toDigits ((List.cons.inj same).1 ▸ written))
    rw [whole?.eq_2 _ leading, digits_append (toDigits_isDigit whole) next]
    simp [Nat.toDigits_ne_nil, Nat.ofDigitChars_toDigits]

def fractionChars (fraction : List Char) : List Char :=
  if fraction.isEmpty then [] else '.' :: fraction

/-- A fraction is read back if it consists of digits. -/
theorem fraction?_fractionChars {fraction : List Char} (all : ∀ c ∈ fraction, c.isDigit = true)
    (ends : rest.head?.any continuesWhole = false) :
    fraction? (fractionChars fraction ++ rest) = some (fraction, rest) := by
  unfold fractionChars
  split
  next empty =>
    have point : ∀ text, rest = '.' :: text → False := by
      rintro text rfl
      have other : continuesWhole '.' = false := ends
      exact absurd other (by decide)
    rw [List.isEmpty_iff.1 empty, List.nil_append, fraction?.eq_2 _ point]
  next some =>
    rw [List.cons_append, fraction?, digits_append all (head_any_isDigit ends)]
    exact if_neg some

theorem head_fractionChars (fraction : List Char)
    (ends : rest.head?.any continuesWhole = false) :
    (fractionChars fraction ++ rest).head?.any Char.isDigit = false := by
  unfold fractionChars
  split
  · exact head_any_isDigit ends
  · rfl

def exponentChars : Option Int → List Char
  | none => []
  | some power => 'e' :: (if power < 0 then '-' else '+') :: Nat.toDigits 10 power.natAbs

theorem exponentDigits?_toDigits (negative : Bool) (power : Nat)
    (next : rest.head?.any Char.isDigit = false) :
    exponentDigits? negative (Nat.toDigits 10 power ++ rest) =
      some (some (if negative then -(power : Int) else power), rest) := by
  rw [exponentDigits?, digits_append (toDigits_isDigit power) next]
  simp [Nat.toDigits_ne_nil, Nat.ofDigitChars_toDigits]

/-- An exponent is read back with its sign. -/
theorem exponent?_exponentChars (exponent : Option Int)
    (ends : rest.head?.any continuesNumber = false) :
    exponent? (exponentChars exponent ++ rest) = some (exponent, rest) := by
  cases exponent with
  | none =>
      cases rest with
      | nil => rfl
      | cons c rest =>
          have other : continuesNumber c = false := ends
          simp only [continuesNumber, Bool.or_eq_false_iff, decide_eq_false_iff_not] at other
          exact if_neg (not_or_intro other.1.2 other.2)
  | some power =>
      have next := head_any_isDigit (head_any_continuesWhole ends)
      by_cases negative : power < 0
      · simp only [exponentChars, if_pos negative, List.cons_append, exponent?, true_or, if_true,
          exponentDigits?_toDigits true _ next, Option.some.injEq, Prod.mk.injEq, and_true]
        omega
      · simp only [exponentChars, if_neg negative, List.cons_append, exponent?, true_or, if_true,
          exponentDigits?_toDigits false _ next, Bool.false_eq_true, if_false, Option.some.injEq,
          Prod.mk.injEq, and_true]
        omega

theorem head_exponentChars (exponent : Option Int)
    (ends : rest.head?.any continuesNumber = false) :
    (exponentChars exponent ++ rest).head?.any continuesWhole = false := by
  cases exponent with
  | none => exact head_any_continuesWhole ends
  | some power => rfl

namespace Number

theorem chars_eq (literal : Number) :
    literal.chars = (if literal.negative then ['-'] else []) ++
      (Nat.toDigits 10 literal.whole ++
        (fractionChars literal.fraction ++ exponentChars literal.exponent)) := by
  obtain ⟨negative, whole, fraction, exponent⟩ := literal
  cases exponent <;> simp [Number.chars, fractionChars, exponentChars]

/-- A literal begins with its sign or with a digit. -/
theorem chars_eq_cons (literal : Number) :
    ∃ c more, literal.chars = c :: more ∧ (c = '-' ∨ c.isDigit = true) := by
  obtain ⟨digit, more, written, isDigit⟩ := toDigits_eq_cons literal.whole
  rw [chars_eq, written]
  split
  · exact ⟨_, _, rfl, .inl rfl⟩
  · exact ⟨_, _, rfl, .inr isDigit⟩

end Number

/-- The parts of a literal behind its sign are read back one after the other. -/
theorem magnitude?_append {literal : Number} (all : ∀ c ∈ literal.fraction, c.isDigit = true)
    (ends : rest.head?.any continuesNumber = false) :
    magnitude? literal.negative (Nat.toDigits 10 literal.whole ++
      (fractionChars literal.fraction ++ (exponentChars literal.exponent ++ rest))) =
        some (literal, rest) := by
  have behindFraction := head_exponentChars literal.exponent ends
  have behindWhole := head_fractionChars literal.fraction behindFraction
  rw [magnitude?, whole?_toDigits _ behindWhole]
  simp only [fraction?_fractionChars all behindFraction, exponent?_exponentChars _ ends,
    Option.map_some]

/-- A written literal whose fraction consists of digits is read back. -/
theorem number?_chars {literal : Number} (all : ∀ c ∈ literal.fraction, c.isDigit = true)
    (ends : rest.head?.any continuesNumber = false) :
    number? (literal.chars ++ rest) = some (literal, rest) := by
  have parts := magnitude?_append all ends
  rw [Number.chars_eq]
  simp only [List.append_assoc]
  cases negative : literal.negative with
  | true =>
      rw [negative] at parts
      exact parts
  | false =>
      have unsigned : ∀ text, Nat.toDigits 10 literal.whole ++ (fractionChars literal.fraction ++
          (exponentChars literal.exponent ++ rest)) = '-' :: text → False := by
        intro text same
        obtain ⟨digit, more, written, isDigit⟩ := toDigits_eq_cons literal.whole
        rw [written, List.cons_append] at same
        rw [(List.cons.inj same).1] at isDigit
        exact absurd isDigit (by decide)
      rw [negative] at parts
      rw [if_neg Bool.false_ne_true, List.nil_append, number?.eq_2 _ unsigned, parts]

end PropertyGraph.Json
