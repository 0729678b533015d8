import PropertyGraph.Json.Basic

/-!
# Compact JSON text

A tree is written without blanks.  In strings only quotes, backslashes and
control characters are escaped.
-/

namespace PropertyGraph.Json

def hexDigit (number : Nat) : Char := Nat.digitChar number

def unitEscape (unit : Nat) : List Char :=
  ['\\', 'u', hexDigit (unit / 4096 % 16), hexDigit (unit / 256 % 16), hexDigit (unit / 16 % 16),
    hexDigit (unit % 16)]

/-- One character of a string as it is written. -/
def escape (c : Char) : List Char :=
  match c with
  | '\"' => ['\\', '\"']
  | '\\' => ['\\', '\\']
  | '\n' => ['\\', 'n']
  | '\r' => ['\\', 'r']
  | '\t' => ['\\', 't']
  | '\x08' => ['\\', 'b']
  | '\x0c' => ['\\', 'f']
  | _ => if c.toNat < 0x20 then unitEscape c.toNat else [c]

/-- A string as it is written; one that denotes no text becomes half of a surrogate pair. -/
def quoted : Option String → List Char
  | some text => '\"' :: (text.toList.flatMap escape ++ ['\"'])
  | none => '\"' :: (unitEscape 0xd800 ++ ['\"'])

/-- A number literal as it is written; an exponent always has its sign. -/
def Number.chars (literal : Number) : List Char :=
  let sign := if literal.negative then ['-'] else []
  let fraction := if literal.fraction.isEmpty then [] else '.' :: literal.fraction
  let exponent :=
    match literal.exponent with
    | none => []
    | some power =>
      'e' :: (if power < 0 then '-' else '+') :: Nat.toDigits 10 power.natAbs
  sign ++ Nat.toDigits 10 literal.whole ++ fraction ++ exponent

mutual

def chars : Json → List Char
  | null => ['n', 'u', 'l', 'l']
  | boolean true => ['t', 'r', 'u', 'e']
  | boolean false => ['f', 'a', 'l', 's', 'e']
  | number literal => literal.chars
  | string text => quoted text
  | array items => '[' :: (itemChars items ++ [']'])
  | object members => '\x7b' :: (memberChars members ++ ['\x7d'])

def itemChars : List Json → List Char
  | [] => []
  | [item] => chars item
  | item :: other :: rest => chars item ++ ',' :: itemChars (other :: rest)

def memberChars : List (Option String × Json) → List Char
  | [] => []
  | [(name, value)] => quoted name ++ ':' :: chars value
  | (name, value) :: other :: rest =>
    quoted name ++ ':' :: (chars value ++ ',' :: memberChars (other :: rest))

end

def render (json : Json) : String := String.ofList json.chars

end PropertyGraph.Json
