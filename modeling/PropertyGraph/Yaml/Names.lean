import PropertyGraph.Yaml.Tag

/-!
# Names in a YAML text

What a text has named so far: nodes by anchors, beginnings of tags by handles.
Each anchor is known by a number.  A name that is bound again gets a number
that a later anchor may share, and an alias takes the number that its name has
at the time.

Directives are lines before a document.  One tells the version of the
language, and the others declare handles.
-/

namespace PropertyGraph.Yaml

structure Names where
  anchors : List (String × Nat)
  handles : List (String × List UInt8)
  hasVersion : Bool

namespace Names

def nothing : Names := ⟨[], [], false⟩

/-- Bind an anchor, and its number: the number of different anchors that were bound before. -/
def bindAnchor (names : Names) (anchor : String) : Names × Nat :=
  let number := names.anchors.length
  ({ names with anchors :=
      (anchor, number) :: names.anchors.filter fun bound => bound.1 ≠ anchor }, number)

def anchor? (names : Names) (anchor : String) : Option Nat := names.anchors.lookup anchor

/-- The handles that need not be declared. -/
def standardHandles : List (String × List UInt8) :=
  [("!", Tag.asciiOctets "!"), ("!!", Tag.asciiOctets "tag:yaml.org,2002:")]

/-- The tag that a written tag stands for, if its handle is known. -/
def tag? (names : Names) (written : WrittenTag) : Option Tag :=
  if written.handle = "" then some ⟨written.suffix⟩
  else ((names.handles ++ standardHandles).lookup written.handle).map fun beginning =>
    ⟨beginning ++ written.suffix⟩

/-- The name of an anchor at the beginning of a text; only some marks may follow it at once. -/
def anchorName? (text : List Char) : Option (List Char) :=
  let name := text.takeWhile isWordChar
  let rest := text.drop name.length
  if name.isEmpty then none
  else if atWordEnd rest ∨
      rest.head?.any ['?', ':', ',', ']', '\x7d', '%', '@', '\x60'].contains then some name
  else none

/-- The number of one to nine digits at the beginning of a text, and the text after it. -/
def shortNumber? (text : List Char) : Option (Nat × List Char) :=
  let digits := text.takeWhile Char.isDigit
  if digits.isEmpty ∨ 9 < digits.length then none
  else some (Nat.ofDigitChars 10 digits 0, text.drop digits.length)

def afterVersion? (text : List Char) : Option (List Char) :=
  match shortNumber? text with
  | some (1, '.' :: rest) =>
    match shortNumber? rest with
    | some (1, rest) => some rest
    | some (2, rest) => some rest
    | _ => none
  | _ => none

def versionDirective? (names : Names) (cursor : Cursor) : Option (Names × Cursor) := do
  if names.hasVersion then none
  let rest ← afterVersion? cursor.rest
  some ({ names with hasVersion := true }, cursor.advance (cursor.rest.length - rest.length))

def declaredHandle? : List Char → Option (String × Nat)
  | '!' :: rest =>
    let word := rest.takeWhile isWordChar
    match WrittenTag.handle? word (rest.drop word.length) with
    | some handle => some (handle, word.length + 2)
    | none => if word.isEmpty then some ("!", 1) else none
  | _ => none

def handleDirective? (names : Names) (cursor : Cursor) : Option (Names × Cursor) := do
  let (handle, length) ← declaredHandle? cursor.rest
  let after := cursor.advance length
  if !after.rest.head?.any isBlank then none
  let begun := after.skipBlanks
  let (beginning, length) ← Tag.nonemptyPart? true begun.rest
  let ended := begun.advance length
  if !atWordEnd ended.rest ∨ names.handles.any fun declared => declared.1 = handle then none
  some ({ names with handles := (handle, beginning) :: names.handles }, ended)

/-- A directive after its percent sign, together with the rest of its line. -/
def directive? (names : Names) (cursor : Cursor) : Option (Names × Cursor) := do
  let name := cursor.rest.takeWhile isWordChar
  let named := cursor.advance name.length
  if !atWordEnd named.rest then none
  let begun := named.skipBlanks
  let (names, ended) ←
    if name = "YAML".toList then names.versionDirective? begun
    else if name = "TAG".toList then names.handleDirective? begun
    else none
  some (names, ← ended.endLine?)

end Names

end PropertyGraph.Yaml
