import PropertyGraph.Yaml.Block
import PropertyGraph.Yaml.Names

/-!
# YAML tokens

A text is cut into tokens.  Indentation becomes tokens that open and close
block collections.  A key is known only by the colon after it, so every place
where a key may begin is remembered as a candidate; at a colon the key token
is put where the candidate was.  A candidate must be followed by its colon on
the same line, and it must become a key if it stands at the indentation of a
block mapping.

Names are looked up while the text is cut, because what an anchor or a handle
stands for depends on the text before it only.  So anchors and aliases become
numbers, and tags are complete.
-/

namespace PropertyGraph.Yaml

inductive Token where
  | directive
  | documentStart
  | documentEnd
  | blockSequenceStart
  | blockMappingStart
  | blockEnd
  | flowSequenceStart
  | flowSequenceEnd
  | flowMappingStart
  | flowMappingEnd
  | item
  | comma
  | key
  | value
  | anchor (number : Nat)
  | aliasOf (number : Nat)
  | tag (tag : Tag)
  | scalar (style : Style) (text : String)
  deriving DecidableEq

structure Candidate where
  /-- The number of tokens before the place. -/
  position : Nat
  required : Bool
  index : Nat
  line : Nat
  column : Nat

structure Cutting where
  cursor : Cursor
  tokens : Array Token
  /-- The column of the innermost block collection, or `-1`. -/
  indent : Int
  outerIndents : List Int
  /-- The candidate inside the innermost brackets. -/
  candidate : Option Candidate
  outerCandidates : List (Option Candidate)
  keyAllowed : Bool
  names : Names

namespace Cutting

def start (text : List Char) : Cutting := ⟨.start text, #[], -1, [], none, [], true, .nothing⟩

def inFlow (cutting : Cutting) : Bool := !cutting.outerCandidates.isEmpty

def push (cutting : Cutting) (token : Token) : Cutting :=
  { cutting with tokens := cutting.tokens.push token }

def advance (cutting : Cutting) (count : Nat) : Cutting :=
  { cutting with cursor := cutting.cursor.advance count }

/--
Pass white space and comments.  Tabs do not separate tokens where a key may
begin, except inside brackets; a new line outside of brackets may begin with a
key.  A byte order mark at the beginning of a line is passed too.
-/
def skipSpace : Nat → Cutting → Cutting
  | 0, cutting => cutting
  | fuel + 1, cutting =>
    match cutting.cursor.rest with
    | [] => cutting
    | c :: _ =>
      if c = ' ' ∨ (c = '\t' ∧ (cutting.inFlow ∨ !cutting.keyAllowed)) ∨
          (c = '\ufeff' ∧ cutting.cursor.column = 0) then
        skipSpace fuel (cutting.advance 1)
      else if c = '#' then skipSpace fuel { cutting with cursor := cutting.cursor.skipLine }
      else if isBreak c then
        skipSpace fuel { cutting with
          cursor := cutting.cursor.nextLine
          keyAllowed := cutting.keyAllowed || !cutting.inFlow }
      else cutting

/-- Give up a candidate; one that had to become a key is an error. -/
def giveUp : Option Candidate → Option (Option Candidate)
  | some candidate => if candidate.required then none else some none
  | none => some none

/-- Give up a candidate on an earlier line or more than 1024 octets back. -/
def giveUpStale (cursor : Cursor) (candidate : Option Candidate) : Option (Option Candidate) :=
  if candidate.any fun c => c.line < cursor.line || c.index + 1024 < cursor.index then
    giveUp candidate
  else some candidate

def dropStale (cutting : Cutting) : Option Cutting := do
  some { cutting with
    candidate := ← giveUpStale cutting.cursor cutting.candidate
    outerCandidates := ← cutting.outerCandidates.mapM (giveUpStale cutting.cursor) }

def dropCandidate (cutting : Cutting) : Option Cutting :=
  (giveUp cutting.candidate).map fun candidate => { cutting with candidate := candidate }

/-- Remember a candidate here, in place of the innermost one, if a key may begin. -/
def saveCandidate (cutting : Cutting) : Option Cutting :=
  if cutting.keyAllowed then
    let cursor := cutting.cursor
    cutting.dropCandidate.map fun cutting =>
      { cutting with
        candidate := some ⟨cutting.tokens.size, !cutting.inFlow && cutting.indent = cursor.column,
          cursor.index, cursor.line, cursor.column⟩ }
  else some cutting

/-- Close block collections that are indented more than `column`. -/
def closeBlocks (column : Int) : List Int → Cutting → Cutting
  | [], cutting => cutting
  | outer :: others, cutting =>
    if column < cutting.indent then
      closeBlocks column others
        { cutting.push .blockEnd with indent := outer, outerIndents := others }
    else cutting

/-- Outside of brackets, close the block collections that are indented more than `column`. -/
def unindent (cutting : Cutting) (column : Int) : Cutting :=
  if cutting.inFlow then cutting else closeBlocks column cutting.outerIndents cutting

/-- Outside of brackets, open a block collection at a larger column, with its token at `position`. -/
def indentTo (cutting : Cutting) (column : Nat) (position : Nat) (token : Token) : Cutting :=
  if cutting.inFlow ∨ (column : Int) ≤ cutting.indent then cutting
  else
    { cutting with
      indent := column
      outerIndents := cutting.indent :: cutting.outerIndents
      tokens := cutting.tokens.insertIdxIfInBounds position token }

def cutDirective (cutting : Cutting) : Option Cutting :=
  (cutting.unindent (-1)).dropCandidate.bind fun cutting =>
    (cutting.names.directive? (cutting.cursor.advance 1)).map fun (names, cursor) =>
      { cutting.push .directive with cursor := cursor, names := names, keyAllowed := false }

def cutDocumentMarker (cutting : Cutting) (token : Token) : Option Cutting :=
  (cutting.unindent (-1)).dropCandidate.map fun cutting =>
    { (cutting.push token).advance 3 with keyAllowed := false }

def cutOpening (cutting : Cutting) (token : Token) : Option Cutting :=
  cutting.saveCandidate.map fun cutting =>
    { (cutting.push token).advance 1 with
      candidate := none
      outerCandidates := cutting.candidate :: cutting.outerCandidates
      keyAllowed := true }

def cutClosing (cutting : Cutting) (token : Token) : Option Cutting :=
  cutting.dropCandidate.map fun cutting =>
    { (cutting.push token).advance 1 with
      candidate := cutting.outerCandidates.head?.join
      outerCandidates := cutting.outerCandidates.tail
      keyAllowed := false }

def cutComma (cutting : Cutting) : Option Cutting :=
  cutting.dropCandidate.map fun cutting =>
    { (cutting.push .comma).advance 1 with keyAllowed := true }

def cutItem (cutting : Cutting) : Option Cutting :=
  if !cutting.inFlow ∧ !cutting.keyAllowed then none
  else
    (cutting.indentTo cutting.cursor.column cutting.tokens.size
        .blockSequenceStart).dropCandidate.map fun cutting =>
      { (cutting.push .item).advance 1 with keyAllowed := true }

def cutKey (cutting : Cutting) : Option Cutting :=
  if !cutting.inFlow ∧ !cutting.keyAllowed then none
  else
    (cutting.indentTo cutting.cursor.column cutting.tokens.size
        .blockMappingStart).dropCandidate.map fun cutting =>
      { (cutting.push .key).advance 1 with keyAllowed := !cutting.inFlow }

/-- The colon before a value; it makes the innermost candidate a key. -/
def cutValue (cutting : Cutting) : Option Cutting :=
  match cutting.candidate with
  | some candidate =>
    let keyed := { cutting with
      tokens := cutting.tokens.insertIdxIfInBounds candidate.position .key }
    let opened := keyed.indentTo candidate.column candidate.position .blockMappingStart
    some { (opened.push .value).advance 1 with candidate := none, keyAllowed := false }
  | none =>
    if !cutting.inFlow ∧ !cutting.keyAllowed then none
    else
      let opened := cutting.indentTo cutting.cursor.column cutting.tokens.size .blockMappingStart
      some { (opened.push .value).advance 1 with keyAllowed := !cutting.inFlow }

def cutAnchor (cutting : Cutting) (rest : List Char) : Option Cutting :=
  cutting.saveCandidate.bind fun cutting =>
    (Names.anchorName? rest).map fun name =>
      let (names, number) := cutting.names.bindAnchor (String.ofList name)
      { (cutting.push (.anchor number)).advance (name.length + 1) with
        names := names, keyAllowed := false }

def cutAlias (cutting : Cutting) (rest : List Char) : Option Cutting :=
  cutting.saveCandidate.bind fun cutting =>
    (Names.anchorName? rest).bind fun name =>
      (cutting.names.anchor? (String.ofList name)).map fun number =>
        { (cutting.push (.aliasOf number)).advance (name.length + 1) with keyAllowed := false }

/-- A tag; what follows it is separated by white space, or by a comma inside brackets. -/
def cutTag (cutting : Cutting) : Option Cutting :=
  cutting.saveCandidate.bind fun cutting =>
    (WrittenTag.read? cutting.cursor.rest).bind fun (written, length) =>
      let ended := cutting.advance length
      if atWordEnd ended.cursor.rest ∨ (ended.inFlow ∧ ended.cursor.rest.head? = some ',') then
        (cutting.names.tag? written).map fun tag =>
          { ended.push (.tag tag) with keyAllowed := false }
      else none

def cutBlock (cutting : Cutting) (style : Style) : Option Cutting :=
  cutting.dropCandidate.bind fun cutting =>
    (block? (style = .folded) cutting.indent (cutting.cursor.advance 1)).map
      fun (text, cursor) =>
        { cutting.push (.scalar style text) with cursor := cursor, keyAllowed := true }

def cutQuoted (cutting : Cutting) (quote : Quote) : Option Cutting :=
  cutting.saveCandidate.bind fun cutting =>
    (quoted? quote (cutting.cursor.rest.length + 1) (cutting.cursor.advance 1) .nothing []).map
      fun (text, cursor) =>
        { cutting.push (.scalar .quoted text) with cursor := cursor, keyAllowed := false }

def cutPlain (cutting : Cutting) : Option Cutting :=
  cutting.saveCandidate.bind fun cutting =>
    (plain? cutting.inFlow (cutting.indent + 1) (cutting.cursor.rest.length + 1) cutting.cursor
        .nothing []).map fun scalar =>
      { cutting.push (.scalar .plain scalar.text) with
        cursor := scalar.cursor
        keyAllowed := scalar.lineEnded }

/-- Whether a plain scalar may begin with a character that is no mark of its own here. -/
def beginsPlain (c : Char) : Bool :=
  !(isBlank c || [',', '[', ']', '\x7b', '\x7d', '#', '&', '*', '!', '|', '>', '\x27', '\"', '%',
    '@', '\x60'].contains c)

def cutToken (cutting : Cutting) (c : Char) (rest : List Char) : Option Cutting :=
  let isMark := cutting.inFlow || atWordEnd rest
  if c = '%' ∧ cutting.cursor.column = 0 then cutting.cutDirective
  else if cutting.cursor.atMarker '-' then cutting.cutDocumentMarker .documentStart
  else if cutting.cursor.atMarker '.' then cutting.cutDocumentMarker .documentEnd
  else
    match c with
    | '[' => cutting.cutOpening .flowSequenceStart
    | '\x7b' => cutting.cutOpening .flowMappingStart
    | ']' => cutting.cutClosing .flowSequenceEnd
    | '\x7d' => cutting.cutClosing .flowMappingEnd
    | ',' => cutting.cutComma
    | '-' => if atWordEnd rest then cutting.cutItem else cutting.cutPlain
    | '?' => if isMark then cutting.cutKey else cutting.cutPlain
    | ':' => if isMark then cutting.cutValue else cutting.cutPlain
    | '&' => cutting.cutAnchor rest
    | '*' => cutting.cutAlias rest
    | '!' => cutting.cutTag
    | '|' => if cutting.inFlow then none else cutting.cutBlock .literal
    | '>' => if cutting.inFlow then none else cutting.cutBlock .folded
    | '\x27' => cutting.cutQuoted .single
    | '\"' => cutting.cutQuoted .double
    | c => if beginsPlain c then cutting.cutPlain else none

/-- Cut the rest of a text into tokens; at its end every block collection is closed. -/
def run : Nat → Cutting → Option (List Token)
  | 0, _ => none
  | fuel + 1, cutting =>
    let spaced := skipSpace (cutting.cursor.rest.length + 1) cutting
    match spaced.dropStale with
    | none => none
    | some fresh =>
      let aligned := fresh.unindent fresh.cursor.column
      match aligned.cursor.rest with
      | [] => (aligned.unindent (-1)).dropCandidate.map fun ended => ended.tokens.toList
      | c :: rest =>
        match aligned.cutToken c rest with
        | none => none
        | some next => run fuel next

end Cutting

def tokens? (text : String) : Option (List Token) :=
  let characters := text.toList
  if characters.all isPrintable then Cutting.run (characters.length + 1) (.start characters)
  else none

end PropertyGraph.Yaml
