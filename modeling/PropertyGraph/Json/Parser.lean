import PropertyGraph.Json.Basic

/-!
# Reading JSON text

The strict grammar: the whole text is one value, blanks are allowed around
values and marks, and there are no comments, trailing commas or leading zeros.
Containers may nest to any depth.
-/

namespace PropertyGraph.Json

def isBlank (c : Char) : Bool := c = ' ' || c = '\t' || c = '\n' || c = '\r'

def skipBlank (text : List Char) : List Char := text.dropWhile isBlank

def hexValue? (c : Char) : Option Nat :=
  if c.isDigit then some (c.toNat - 48)
  else if 'a' ≤ c ∧ c ≤ 'f' then some (c.toNat - 87)
  else if 'A' ≤ c ∧ c ≤ 'F' then some (c.toNat - 55)
  else none

inductive StringPart where
  | char (c : Char)
  | unit (number : Nat)
  deriving DecidableEq

/-- The character that a one-letter escape stands for. -/
def escaped? : Char → Option Char
  | '\"' => some '\"'
  | '\\' => some '\\'
  | '/' => some '/'
  | 'b' => some '\x08'
  | 'f' => some '\x0c'
  | 'n' => some '\n'
  | 'r' => some '\r'
  | 't' => some '\t'
  | _ => none

/-- The elements of a string up to its closing quote, and the text after the quote. -/
def stringParts? : List Char → Option (List StringPart × List Char)
  | [] => none
  | '\"' :: rest => some ([], rest)
  | '\\' :: 'u' :: a :: b :: c :: d :: rest =>
    match hexValue? a, hexValue? b, hexValue? c, hexValue? d with
    | some a, some b, some c, some d =>
      (stringParts? rest).map fun (parts, after) =>
        (.unit (a * 4096 + b * 256 + c * 16 + d) :: parts, after)
    | _, _, _, _ => none
  | '\\' :: c :: rest =>
    match escaped? c with
    | some c => (stringParts? rest).map fun (parts, after) => (.char c :: parts, after)
    | none => none
  | c :: rest =>
    if c.toNat < 0x20 ∨ c = '\\' then none
    else (stringParts? rest).map fun (parts, after) => (.char c :: parts, after)

def isHighSurrogate (unit : Nat) : Bool := 0xd800 ≤ unit && unit < 0xdc00

def isLowSurrogate (unit : Nat) : Bool := 0xdc00 ≤ unit && unit < 0xe000

/-- The characters that string elements denote, unless a surrogate stands alone. -/
def joinParts? : List StringPart → Option (List Char)
  | [] => some []
  | .char c :: rest => (joinParts? rest).map (c :: ·)
  | .unit high :: .unit low :: rest =>
    if isHighSurrogate high then
      if isLowSurrogate low then
        (joinParts? rest).map
          (Char.ofNat (0x10000 + (high - 0xd800) * 0x400 + (low - 0xdc00)) :: ·)
      else none
    else if isLowSurrogate high then none
    else (joinParts? (.unit low :: rest)).map (Char.ofNat high :: ·)
  | .unit unit :: rest =>
    if isHighSurrogate unit || isLowSurrogate unit then none
    else (joinParts? rest).map (Char.ofNat unit :: ·)

/-- A string after its opening quote. -/
def string? (text : List Char) : Option (Option String × List Char) :=
  (stringParts? text).map fun (parts, after) => ((joinParts? parts).map String.ofList, after)

def digits (text : List Char) : List Char × List Char :=
  (text.takeWhile Char.isDigit, text.dropWhile Char.isDigit)

/-- The whole part of a number: zero, or digits that do not begin with zero. -/
def whole? : List Char → Option (Nat × List Char)
  | '0' :: rest => some (0, rest)
  | text =>
    let (leading, rest) := digits text
    if leading.isEmpty then none else some (Nat.ofDigitChars 10 leading 0, rest)

/-- The digits after a point, of which there is at least one if there is a point. -/
def fraction? : List Char → Option (List Char × List Char)
  | '.' :: text =>
    let (leading, rest) := digits text
    if leading.isEmpty then none else some (leading, rest)
  | text => some ([], text)

def exponentDigits? (negative : Bool) (text : List Char) : Option (Option Int × List Char) :=
  let (leading, rest) := digits text
  if leading.isEmpty then none
  else
    let power : Int := Nat.ofDigitChars 10 leading 0
    some (some (if negative then -power else power), rest)

def exponent? : List Char → Option (Option Int × List Char)
  | mark :: text =>
    if mark = 'e' ∨ mark = 'E' then
      match text with
      | '-' :: text => exponentDigits? true text
      | '+' :: text => exponentDigits? false text
      | text => exponentDigits? false text
    else some (none, mark :: text)
  | [] => some (none, [])

def magnitude? (negative : Bool) (text : List Char) : Option (Number × List Char) :=
  match whole? text with
  | none => none
  | some (whole, text) =>
    match fraction? text with
    | none => none
    | some (fraction, text) =>
      (exponent? text).map fun (exponent, rest) => (⟨negative, whole, fraction, exponent⟩, rest)

def number? : List Char → Option (Number × List Char)
  | '-' :: text => magnitude? true text
  | text => magnitude? false text

mutual

/-- A value at the beginning of a text, and the text after it. -/
def value? : Nat → List Char → Option (Json × List Char)
  | 0, _ => none
  | fuel + 1, text =>
    match text with
    | 'n' :: 'u' :: 'l' :: 'l' :: rest => some (null, rest)
    | 't' :: 'r' :: 'u' :: 'e' :: rest => some (boolean true, rest)
    | 'f' :: 'a' :: 'l' :: 's' :: 'e' :: rest => some (boolean false, rest)
    | '\"' :: rest => (string? rest).map fun (text, rest) => (string text, rest)
    | '[' :: rest =>
      match skipBlank rest with
      | ']' :: rest => some (array [], rest)
      | rest => (items? fuel rest).map fun (items, rest) => (array items, rest)
    | '\x7b' :: rest =>
      match skipBlank rest with
      | '\x7d' :: rest => some (object [], rest)
      | rest => (members? fuel rest).map fun (members, rest) => (object members, rest)
    | text => (number? text).map fun (literal, rest) => (number literal, rest)

/-- One or more items up to the closing bracket. -/
def items? : Nat → List Char → Option (List Json × List Char)
  | 0, _ => none
  | fuel + 1, text =>
    match value? fuel (skipBlank text) with
    | none => none
    | some (item, rest) =>
      match skipBlank rest with
      | ']' :: rest => some ([item], rest)
      | ',' :: rest => (items? fuel rest).map fun (items, rest) => (item :: items, rest)
      | _ => none

def members? : Nat → List Char → Option (List (Option String × Json) × List Char)
  | 0, _ => none
  | fuel + 1, text =>
    match skipBlank text with
    | '\"' :: rest =>
      match string? rest with
      | none => none
      | some (name, rest) =>
        match skipBlank rest with
        | ':' :: rest =>
          match value? fuel (skipBlank rest) with
          | none => none
          | some (value, rest) =>
            match skipBlank rest with
            | '\x7d' :: rest => some ([(name, value)], rest)
            | ',' :: rest =>
              (members? fuel rest).map fun (members, rest) => ((name, value) :: members, rest)
            | _ => none
        | _ => none
    | _ => none

end

/-- The tree of a whole text; every character is read at most twice, which bounds the recursion. -/
def parse? (text : String) : Option Json :=
  let characters := text.toList
  match value? (2 * characters.length + 1) (skipBlank characters) with
  | some (json, rest) => if (skipBlank rest).isEmpty then some json else none
  | none => none

end PropertyGraph.Json
