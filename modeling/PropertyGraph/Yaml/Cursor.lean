/-!
# Places in a YAML text

A cursor is what is left of a text together with its place: how many octets
were passed, the line and the column.  Columns count characters.  A carriage
return followed by a line feed is one line break.
-/

namespace PropertyGraph.Yaml

def isPrintable (c : Char) : Bool :=
  let code := c.toNat
  code = 0x09 || code = 0x0a || code = 0x0d || (0x20 ≤ code && code ≤ 0x7e) || code = 0x85 ||
    (0xa0 ≤ code && code ≤ 0xfffd) || 0x10000 ≤ code

def isBlank (c : Char) : Bool := c = ' ' || c = '\t'

def isBreak (c : Char) : Bool :=
  c = '\n' || c = '\r' || c = '\u0085' || c = '\u2028' || c = '\u2029'

/-- Whether a blank, a line break or the end of the text comes next. -/
def atWordEnd : List Char → Bool
  | [] => true
  | c :: _ => isBlank c || isBreak c

/-- Whether a character may occur in an anchor, in a handle or in the name of a directive. -/
def isWordChar (c : Char) : Bool := c.isAlphanum || c = '_' || c = '-'

def octetCount (text : List Char) : Nat := text.foldl (fun count c => count + c.utf8Size) 0

/-- What is left of a text, and the place where it begins. -/
structure Cursor where
  rest : List Char
  /-- The number of octets passed. -/
  index : Nat
  line : Nat
  column : Nat

namespace Cursor

def start (text : List Char) : Cursor := ⟨text, 0, 0, 0⟩

/-- Pass a number of characters of one line. -/
def advance (cursor : Cursor) (count : Nat) : Cursor :=
  ⟨cursor.rest.drop count, cursor.index + octetCount (cursor.rest.take count), cursor.line,
    cursor.column + count⟩

def nextLine (cursor : Cursor) : Cursor :=
  match cursor.rest with
  | '\r' :: '\n' :: rest => ⟨rest, cursor.index + 2, cursor.line + 1, 0⟩
  | rest => ⟨rest.drop 1, cursor.index + octetCount (rest.take 1), cursor.line + 1, 0⟩

def skipLine (cursor : Cursor) : Cursor :=
  cursor.advance (cursor.rest.takeWhile fun c => !isBreak c).length

def skipBlanks (cursor : Cursor) : Cursor := cursor.advance (cursor.rest.takeWhile isBlank).length

/-- Pass the end of a line, where nothing but blanks and a comment may stand. -/
def endLine? (cursor : Cursor) : Option Cursor :=
  let spaced := cursor.skipBlanks
  let ended := if spaced.rest.head? = some '#' then spaced.skipLine else spaced
  if ended.rest.isEmpty then some ended
  else if ended.rest.head?.any isBreak then some ended.nextLine
  else none

/-- What a line break adds to a scalar: the two separators are kept, the others are line feeds. -/
def breakChar (c : Char) : Char := if c = '\u2028' || c = '\u2029' then c else '\n'

/-- Whether three marks stand alone at the beginning of a line. -/
def atMarker (cursor : Cursor) (mark : Char) : Bool :=
  cursor.column = 0 && cursor.rest.take 3 == [mark, mark, mark] && atWordEnd (cursor.rest.drop 3)

def atDocumentMarker (cursor : Cursor) : Bool := cursor.atMarker '-' || cursor.atMarker '.'

end Cursor

end PropertyGraph.Yaml
