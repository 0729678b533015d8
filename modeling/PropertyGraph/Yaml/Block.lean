import PropertyGraph.Yaml.Scalar

/-!
# Block scalars

A block scalar is a header and the lines below it that are indented enough.
The indentation is given in the header, or it is the widest one among the
empty lines at the beginning and the first line that is not empty.  The text
is put together from the lines once they are known.
-/

namespace PropertyGraph.Yaml

/-- What becomes of the line breaks at the end of a block scalar. -/
inductive Chomping where
  | strip
  | clip
  | keep
  deriving DecidableEq

structure BlockHeader where
  chomping : Chomping
  /-- The indentation beyond that of the collection around the scalar. -/
  increment : Option Nat

namespace BlockHeader

def chomping? : List Char → Option Chomping
  | '+' :: _ => some .keep
  | '-' :: _ => some .strip
  | _ => none

def increment? : List Char → Option Nat
  | c :: _ => if c.isDigit then some (c.toNat - 48) else none
  | [] => none

/-- The header that a text begins with, and its length; sign and digit come in either order. -/
def read (text : List Char) : BlockHeader × Nat :=
  match chomping? text, increment? text with
  | some chomping, _ =>
    match increment? (text.drop 1) with
    | some increment => (⟨chomping, some increment⟩, 2)
    | none => (⟨chomping, none⟩, 1)
  | none, some increment =>
    match chomping? (text.drop 1) with
    | some chomping => (⟨chomping, some increment⟩, 2)
    | none => (⟨.clip, some increment⟩, 1)
  | none, none => (⟨.clip, none⟩, 0)

end BlockHeader

structure Margin where
  emptyLines : List Char
  widest : Nat
  cursor : Cursor

/--
Pass the indentation and the empty lines.  Indentation is spaces, as many as
`indent` says or as there are; a tab in it is an error.
-/
def margin? (indent : Option Nat) : Nat → List Char → Nat → Cursor → Option Margin
  | 0, _, _, _ => none
  | fuel + 1, emptyLines, widest, cursor =>
    let spaces := (cursor.rest.takeWhile (· = ' ')).length
    let inner := cursor.advance (indent.elim spaces fun column =>
      min spaces (column - cursor.column))
    let widest := max widest inner.column
    match inner.rest with
    | [] => some ⟨emptyLines, widest, inner⟩
    | c :: _ =>
      if c = '\t' ∧ indent.all (inner.column < ·) then none
      else if isBreak c then
        margin? indent fuel (emptyLines ++ [Cursor.breakChar c]) widest inner.nextLine
      else some ⟨emptyLines, widest, inner⟩

/-- A line of a block scalar that is not empty. -/
structure BlockLine where
  text : List Char
  lineBreak : Option Char
  emptyLines : List Char

namespace BlockLine

def isIndented (line : BlockLine) : Bool := line.text.head?.any isBlank

/--
What is put between a line and the next.  Folding turns the break into a
space, or drops it before empty lines, unless one of the two is indented more.
-/
def joint (isFolded : Bool) (line next : BlockLine) : List Char :=
  if isFolded && line.lineBreak = some '\n' && !line.isIndented && !next.isIndented then
    if line.emptyLines.isEmpty then [' '] else line.emptyLines
  else line.lineBreak.toList ++ line.emptyLines

def ending (chomping : Chomping) (line : BlockLine) : List Char :=
  match chomping with
  | .strip => []
  | .clip => line.lineBreak.toList
  | .keep => line.lineBreak.toList ++ line.emptyLines

def join (isFolded : Bool) (chomping : Chomping) : List BlockLine → List Char
  | [] => []
  | [line] => line.text ++ line.ending chomping
  | line :: next :: rest =>
    line.text ++ line.joint isFolded next ++ join isFolded chomping (next :: rest)

/-- The lines that begin at the column `indent`, and the place after them. -/
def lines? (indent : Nat) : Nat → Cursor → Option (List BlockLine × Cursor)
  | 0, _ => none
  | fuel + 1, cursor =>
    if cursor.column = indent ∧ !cursor.rest.isEmpty then
      let ended := cursor.skipLine
      let lineBreak := ended.rest.head?.map Cursor.breakChar
      let next := if lineBreak.isSome then ended.nextLine else ended
      match margin? (some indent) (next.rest.length + 1) [] 0 next with
      | none => none
      | some margin =>
        let line := ⟨cursor.rest.takeWhile fun c => !isBreak c, lineBreak, margin.emptyLines⟩
        (lines? indent fuel margin.cursor).map fun (lines, after) => (line :: lines, after)
    else some ([], cursor)

end BlockLine

/-- The text of a block scalar; without lines only the breaks that are kept count. -/
def blockText (isFolded : Bool) (chomping : Chomping) (emptyLines : List Char)
    (lines : List BlockLine) : String :=
  if lines.isEmpty then
    if chomping = .keep then String.ofList emptyLines else ""
  else String.ofList (emptyLines ++ BlockLine.join isFolded chomping lines)

/--
A block scalar after its opening mark: its text, and the cursor after it.
`outer` is the column of the collection around it, or `-1`.
-/
def block? (isFolded : Bool) (outer : Int) (cursor : Cursor) : Option (String × Cursor) := do
  let (header, length) := BlockHeader.read cursor.rest
  if header.increment = some 0 then none
  let begun ← (cursor.advance length).endLine?
  let fuel := begun.rest.length + 1
  let given := header.increment.map (outer.toNat + ·)
  let margin ← margin? given fuel [] 0 begun
  let indent := given.getD (max margin.widest (max (outer + 1).toNat 1))
  let (lines, ended) ← BlockLine.lines? indent fuel margin.cursor
  some (blockText isFolded header.chomping margin.emptyLines lines, ended)

end PropertyGraph.Yaml
