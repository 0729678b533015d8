import PropertyGraph.Yaml.Cursor

/-!
# YAML scalars

Plain and quoted scalars may run over several lines.  A single line break
between words is folded to a space, and of several breaks the first is
dropped.
-/

namespace PropertyGraph.Yaml

inductive Style where
  | plain
  | quoted
  | literal
  | folded
  deriving DecidableEq

/-- The white space passed since the last word of a scalar. -/
inductive Gap where
  | blanks (text : List Char)
  /-- A first line break, unless it was escaped, and the breaks after it. -/
  | folded (first : Option Char) (others : List Char)

namespace Gap

def nothing : Gap := blanks []

def isNothing : Gap → Bool
  | blanks [] => true
  | _ => false

def isFolded : Gap → Bool
  | blanks _ => false
  | folded .. => true

/-- Add a blank; blanks at the beginning of a line are dropped. -/
def addBlank : Gap → Char → Gap
  | blanks text, c => blanks (text ++ [c])
  | folded first others, _ => folded first others

/-- Add a line break; blanks before it are dropped. -/
def addBreak : Gap → Char → Gap
  | blanks _, c => folded (some c) []
  | folded first others, c => folded first (others ++ [c])

def text : Gap → List Char
  | blanks text => text
  | folded (some '\n') [] => [' ']
  | folded (some '\n') others => others
  | folded first others => first.toList ++ others

end Gap

def hexNumber? (digits : List Char) : Option Nat :=
  digits.foldlM (fun number c =>
    if c.isDigit then some (number * 16 + (c.toNat - 48))
    else if 'a' ≤ c ∧ c ≤ 'f' then some (number * 16 + (c.toNat - 87))
    else if 'A' ≤ c ∧ c ≤ 'F' then some (number * 16 + (c.toNat - 55))
    else none) 0

def codePoint? (count : Nat) (text : List Char) : Option Char :=
  let digits := text.take count
  if digits.length < count then none
  else (hexNumber? digits).bind fun number =>
    if number.isValidChar then some (.ofNat number) else none

/-- The character of an escape after its backslash, and the length of the escape. -/
def escape? : List Char → Option (Char × Nat)
  | [] => none
  | mark :: rest =>
    match mark with
    | '0' => some ('\x00', 1)
    | 'a' => some ('\x07', 1)
    | 'b' => some ('\x08', 1)
    | 't' => some ('\t', 1)
    | '\t' => some ('\t', 1)
    | 'n' => some ('\n', 1)
    | 'v' => some ('\x0b', 1)
    | 'f' => some ('\x0c', 1)
    | 'r' => some ('\r', 1)
    | 'e' => some ('\x1b', 1)
    | ' ' => some (' ', 1)
    | '\"' => some ('\"', 1)
    | '/' => some ('/', 1)
    | '\\' => some ('\\', 1)
    | 'N' => some ('\u0085', 1)
    | '_' => some ('\u00a0', 1)
    | 'L' => some ('\u2028', 1)
    | 'P' => some ('\u2029', 1)
    | 'x' => (codePoint? 2 rest).map fun c => (c, 3)
    | 'u' => (codePoint? 4 rest).map fun c => (c, 5)
    | 'U' => (codePoint? 8 rest).map fun c => (c, 9)
    | _ => none

inductive Quote where
  | single
  | double
  deriving DecidableEq

def Quote.char : Quote → Char
  | single => '\x27'
  | double => '\"'

/--
A quoted scalar after its opening quote: its text, and the cursor after the
closing quote.  `done` is what was read, the last character first.
-/
def quoted? (quote : Quote) : Nat → Cursor → Gap → List Char → Option (String × Cursor)
  | 0, _, _, _ => none
  | fuel + 1, cursor, gap, done =>
    match cursor.rest with
    | [] => none
    | c :: rest =>
      let joined := gap.text.reverse ++ done
      if cursor.atDocumentMarker then none
      else if isBlank c then quoted? quote fuel (cursor.advance 1) (gap.addBlank c) done
      else if isBreak c then
        quoted? quote fuel cursor.nextLine (gap.addBreak (Cursor.breakChar c)) done
      else if c = quote.char then
        if quote = .single ∧ rest.head? = some c then
          quoted? quote fuel (cursor.advance 2) .nothing (c :: joined)
        else some (String.ofList joined.reverse, cursor.advance 1)
      else if quote = .double ∧ c = '\\' then
        if rest.head?.any isBreak then
          quoted? quote fuel (cursor.advance 1).nextLine (.folded none []) joined
        else
          match escape? rest with
          | none => none
          | some (escaped, length) =>
            quoted? quote fuel (cursor.advance (length + 1)) .nothing (escaped :: joined)
      else quoted? quote fuel (cursor.advance 1) .nothing (c :: joined)

/-- A scalar without quotes, whether a line ended after it, and the cursor after it. -/
structure PlainScalar where
  text : String
  lineEnded : Bool
  cursor : Cursor

def isFlowMark (c : Char) : Bool := [',', '[', ']', '\x7b', '\x7d'].contains c

/--
A plain scalar and the white space after it.  It ends at a colon before white
space, at a comment, at a document mark, inside brackets at one of their
marks, and outside at a line that is indented less than `indent`.
-/
def plain? (inFlow : Bool) (indent : Int) :
    Nat → Cursor → Gap → List Char → Option PlainScalar
  | 0, _, _, _ => none
  | fuel + 1, cursor, gap, done =>
    let ended : PlainScalar := ⟨String.ofList done.reverse, gap.isFolded, cursor⟩
    match cursor.rest with
    | [] => some ended
    | c :: rest =>
      if isBlank c then
        if gap.isFolded ∧ cursor.column < indent ∧ c = '\t' then none
        else plain? inFlow indent fuel (cursor.advance 1) (gap.addBlank c) done
      else if isBreak c then
        plain? inFlow indent fuel cursor.nextLine (gap.addBreak (Cursor.breakChar c)) done
      else if !gap.isNothing ∧
          ((!inFlow ∧ cursor.column < indent) ∨ cursor.atDocumentMarker ∨ c = '#') then
        some ended
      else if inFlow ∧ c = ':' ∧ rest.head?.any fun next => next = '?' ∨ isFlowMark next then none
      else if (c = ':' ∧ atWordEnd rest) ∨ (inFlow ∧ isFlowMark c) then some ended
      else
        plain? inFlow indent fuel (cursor.advance 1) .nothing (c :: (gap.text.reverse ++ done))

end PropertyGraph.Yaml
