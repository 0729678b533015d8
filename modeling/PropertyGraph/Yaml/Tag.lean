import PropertyGraph.Yaml.Scalar

/-!
# Tags

A tag names the kind of a node.  It is written in full, as `!<tag>`, or as a
handle and a suffix, where a handle is one of `!`, `!!` and `!word!` and stands
for the beginning of a tag.  Any octet of a tag can be written as an escape of
a percent sign and two hexadecimal digits, so a tag need not be text.
-/

namespace PropertyGraph.Yaml

structure Tag where
  octets : List UInt8
  deriving DecidableEq

namespace Tag

def text? (tag : Tag) : Option String := String.fromUTF8? ⟨tag.octets.toArray⟩

def asciiOctets (text : String) : List UInt8 := text.toList.map fun c => c.toNat.toUInt8

/-- Whether a character may occur in a tag; commas and brackets occur in a full one only. -/
def isTagChar (inFull : Bool) (c : Char) : Bool :=
  isWordChar c ||
    [';', '/', '?', ':', '@', '&', '=', '+', '$', '.', '!', '~', '*', '\x27', '(', ')'].contains c ||
    (inFull && [',', '[', ']'].contains c)

/--
How many octets of an escaped character are left after one of them, when
`left` were left before it.  The first octet tells how many there are.
-/
def octetsLeft? (left octet : Nat) : Option Nat :=
  if 0 < left then if 0x80 ≤ octet ∧ octet < 0xc0 then some (left - 1) else none
  else if octet < 0x80 then some 0
  else if octet < 0xc0 then none
  else if octet < 0xe0 then some 1
  else if octet < 0xf0 then some 2
  else if octet < 0xf8 then some 3
  else none

/--
The octets that the characters of a tag at the beginning of a text stand for,
and the number of the characters.  `left` counts the octets without which an
escaped character is not complete.
-/
def octets? (inFull : Bool) (left : Nat) : List Char → Option (List UInt8 × Nat)
  | '%' :: high :: low :: rest =>
    match (hexNumber? [high, low]).bind fun octet =>
        (octetsLeft? left octet).map fun left => (octet.toUInt8, left) with
    | none => none
    | some (octet, left) =>
      (octets? inFull left rest).map fun (octets, length) => (octet :: octets, length + 3)
  | c :: rest =>
    if c = '%' ∨ 0 < left then none
    else if isTagChar inFull c then
      (octets? inFull 0 rest).map fun (octets, length) => (c.toNat.toUInt8 :: octets, length + 1)
    else some ([], 0)
  | [] => if 0 < left then none else some ([], 0)

/-- A part of a tag, which ends before the first zero octet, and the characters it takes. -/
def part? (inFull : Bool) (text : List Char) : Option (List UInt8 × Nat) :=
  (octets? inFull 0 text).map fun (octets, length) => (octets.takeWhile (· ≠ 0), length)

def nonemptyPart? (inFull : Bool) (text : List Char) : Option (List UInt8 × Nat) :=
  match part? inFull text with
  | some (octets, length) => if length = 0 then none else some (octets, length)
  | none => none

end Tag

/-- A tag as it is written: a handle, which is empty before a full tag, and what follows it. -/
structure WrittenTag where
  handle : String
  suffix : List UInt8

namespace WrittenTag

def handle? (word : List Char) : List Char → Option String
  | '!' :: _ => some (String.ofList ('!' :: word ++ ['!']))
  | _ => none

/--
The tag at the beginning of a text, and its length.  A lone exclamation mark is
a tag in full.
-/
def read? : List Char → Option (WrittenTag × Nat)
  | '!' :: '<' :: rest => do
    let (octets, length) ← Tag.nonemptyPart? true rest
    if (rest.drop length).head? = some '>' then some (⟨"", octets⟩, length + 3) else none
  | '!' :: rest =>
    let word := rest.takeWhile isWordChar
    match handle? word (rest.drop word.length) with
    | some handle =>
      (Tag.nonemptyPart? false (rest.drop (word.length + 1))).map fun (octets, length) =>
        (⟨handle, octets⟩, word.length + length + 2)
    | none =>
      (Tag.part? false rest).map fun (octets, length) =>
        (if octets.isEmpty then ⟨"", Tag.asciiOctets "!"⟩ else ⟨"!", octets⟩, length + 1)
  | _ => none

end WrittenTag

end PropertyGraph.Yaml
