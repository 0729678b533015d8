import PropertyGraph.Yaml.Token

/-!
# YAML nodes

The tree that tokens stand for.  A stream holds one document at most; a value
that is left out is the empty plain scalar.  Nodes may carry an anchor and a
tag, and an alias stands for a node that carries its number.
-/

namespace PropertyGraph.Yaml

/-- What may be said of a node before its content. -/
structure Properties where
  anchor : Option Nat
  tag : Option Tag
  deriving DecidableEq

namespace Properties

def nothing : Properties := ⟨none, none⟩

/-- The properties at the beginning of some tokens, in either order, and the tokens after them. -/
def read : List Token → Properties × List Token
  | .anchor number :: .tag tag :: rest => (⟨some number, some tag⟩, rest)
  | .tag tag :: .anchor number :: rest => (⟨some number, some tag⟩, rest)
  | .anchor number :: rest => (⟨some number, none⟩, rest)
  | .tag tag :: rest => (⟨none, some tag⟩, rest)
  | rest => (nothing, rest)

end Properties

inductive Node where
  | aliasOf (number : Nat)
  | scalar (properties : Properties) (style : Style) (text : String)
  | sequence (properties : Properties) (items : List Node)
  | mapping (properties : Properties) (pairs : List (Node × Node))

namespace Node

/-- What stands for a node that is left out. -/
def empty : Node := scalar .nothing .plain ""

/-- The properties of a node; an alias has none of its own. -/
def properties : Node → Properties
  | aliasOf _ => .nothing
  | scalar properties _ _ => properties
  | sequence properties _ => properties
  | mapping properties _ => properties

mutual

/-- A node and the nodes below it, in the order in which they begin. -/
def preorder : Node → List Node
  | aliasOf number => [aliasOf number]
  | scalar properties style text => [scalar properties style text]
  | sequence properties items => sequence properties items :: preorderOfItems items
  | mapping properties pairs => mapping properties pairs :: preorderOfPairs pairs

def preorderOfItems : List Node → List Node
  | [] => []
  | item :: items => preorder item ++ preorderOfItems items

def preorderOfPairs : List (Node × Node) → List Node
  | [] => []
  | (key, value) :: pairs => preorder key ++ (preorder value ++ preorderOfPairs pairs)

end

/-- The last node of a tree whose anchor has a number. -/
def anchored? (root : Node) (number : Nat) : Option Node :=
  root.preorder.findRev? fun node => node.properties.anchor = some number

/-- A node of a tree, or the one that an alias stands for. -/
def target? (root : Node) : Node → Option Node
  | aliasOf number => root.anchored? number
  | node => some node

/-- Whether the next token can only come after a node that is left out. -/
def isLeftOut (stops : List Token) : List Token → Bool
  | [] => true
  | token :: _ => stops.contains token

mutual

/-- A node; block collections and sequences without indentation are read where they are allowed. -/
def node? (isBlock sameIndent : Bool) : Nat → List Token → Option (Node × List Token)
  | 0, _ => none
  | fuel + 1, tokens =>
    match tokens with
    | .aliasOf number :: rest => some (aliasOf number, rest)
    | tokens =>
      content? (Properties.read tokens).1 isBlock sameIndent fuel (Properties.read tokens).2

/-- The content of a node; it can be left out if the node has properties. -/
def content? (properties : Properties) (isBlock sameIndent : Bool) :
    Nat → List Token → Option (Node × List Token)
  | 0, _ => none
  | fuel + 1, tokens =>
    match tokens, isBlock, sameIndent with
    | .scalar style text :: rest, _, _ => some (scalar properties style text, rest)
    | .flowSequenceStart :: rest, _, _ =>
      (flowItems? true fuel rest).map fun (items, rest) => (sequence properties items, rest)
    | .flowMappingStart :: rest, _, _ =>
      (flowPairs? true fuel rest).map fun (pairs, rest) => (mapping properties pairs, rest)
    | .blockSequenceStart :: rest, true, _ =>
      (blockItems? fuel rest).map fun (items, rest) => (sequence properties items, rest)
    | .blockMappingStart :: rest, true, _ =>
      (blockPairs? fuel rest).map fun (pairs, rest) => (mapping properties pairs, rest)
    | .item :: rest, _, true =>
      (looseItems? fuel (.item :: rest)).map fun (items, rest) => (sequence properties items, rest)
    | rest, _, _ =>
      if properties = .nothing then none else some (scalar properties .plain "", rest)

/-- A node, or the empty one if a token comes next that can only follow it. -/
def optionalNode? (isBlock sameIndent : Bool) (stops : List Token) :
    Nat → List Token → Option (Node × List Token)
  | 0, _ => none
  | fuel + 1, tokens =>
    if isLeftOut stops tokens then some (empty, tokens)
    else node? isBlock sameIndent fuel tokens

def blockItems? : Nat → List Token → Option (List Node × List Token)
  | 0, _ => none
  | fuel + 1, tokens =>
    match tokens with
    | .blockEnd :: rest => some ([], rest)
    | .item :: rest =>
      match optionalNode? true false [.item, .blockEnd] fuel rest with
      | none => none
      | some (item, rest) => (blockItems? fuel rest).map fun (items, rest) => (item :: items, rest)
    | _ => none

/-- The items of a sequence that stands at the indentation of the mapping around it. -/
def looseItems? : Nat → List Token → Option (List Node × List Token)
  | 0, _ => none
  | fuel + 1, tokens =>
    match tokens with
    | .item :: rest =>
      match optionalNode? true false [.item, .key, .value, .blockEnd] fuel rest with
      | none => none
      | some (item, rest) => (looseItems? fuel rest).map fun (items, rest) => (item :: items, rest)
    | rest => some ([], rest)

def blockPairs? : Nat → List Token → Option (List (Node × Node) × List Token)
  | 0, _ => none
  | fuel + 1, tokens =>
    match tokens with
    | .blockEnd :: rest => some ([], rest)
    | .key :: rest =>
      match optionalNode? true true [.key, .value, .blockEnd] fuel rest with
      | none => none
      | some (key, rest) =>
        match blockValue? fuel rest with
        | none => none
        | some (value, rest) =>
          (blockPairs? fuel rest).map fun (pairs, rest) => ((key, value) :: pairs, rest)
    | _ => none

def blockValue? : Nat → List Token → Option (Node × List Token)
  | 0, _ => none
  | fuel + 1, tokens =>
    match tokens with
    | .value :: rest => optionalNode? true true [.key, .value, .blockEnd] fuel rest
    | rest => some (empty, rest)

def flowItems? (isFirst : Bool) : Nat → List Token → Option (List Node × List Token)
  | 0, _ => none
  | fuel + 1, tokens =>
    match tokens with
    | .flowSequenceEnd :: rest => some ([], rest)
    | tokens =>
      match afterComma? isFirst tokens with
      | none => none
      | some (.flowSequenceEnd :: rest) => some ([], rest)
      | some tokens =>
        match flowItem? fuel tokens with
        | none => none
        | some (item, rest) =>
          (flowItems? false fuel rest).map fun (items, rest) => (item :: items, rest)

/-- An item of a bracketed sequence: a node, or a single pair. -/
def flowItem? : Nat → List Token → Option (Node × List Token)
  | 0, _ => none
  | fuel + 1, tokens =>
    match tokens with
    | .key :: rest =>
      match flowItemKey? fuel rest with
      | none => none
      | some (key, rest) =>
        (flowValue? [.comma, .flowSequenceEnd] fuel rest).map fun (value, rest) =>
          (mapping .nothing [(key, value)], rest)
    | tokens => node? false false fuel tokens

/--
The key of a pair among the items of a bracketed sequence.  If it is left out,
the token in its place is passed.
-/
def flowItemKey? : Nat → List Token → Option (Node × List Token)
  | 0, _ => none
  | fuel + 1, tokens =>
    match tokens with
    | .value :: rest => some (empty, rest)
    | .comma :: rest => some (empty, rest)
    | .flowSequenceEnd :: rest => some (empty, rest)
    | tokens => node? false false fuel tokens

def flowPairs? (isFirst : Bool) : Nat → List Token → Option (List (Node × Node) × List Token)
  | 0, _ => none
  | fuel + 1, tokens =>
    match tokens with
    | .flowMappingEnd :: rest => some ([], rest)
    | tokens =>
      match afterComma? isFirst tokens with
      | none => none
      | some (.flowMappingEnd :: rest) => some ([], rest)
      | some tokens =>
        match flowPair? fuel tokens with
        | none => none
        | some (pair, rest) =>
          (flowPairs? false fuel rest).map fun (pairs, rest) => (pair :: pairs, rest)

/-- A pair of a bracketed mapping; without a colon its value is left out. -/
def flowPair? : Nat → List Token → Option ((Node × Node) × List Token)
  | 0, _ => none
  | fuel + 1, tokens =>
    match tokens with
    | .key :: rest =>
      match optionalNode? false false [.value, .comma, .flowMappingEnd] fuel rest with
      | none => none
      | some (key, rest) =>
        (flowValue? [.comma, .flowMappingEnd] fuel rest).map fun (value, rest) =>
          ((key, value), rest)
    | tokens => (node? false false fuel tokens).map fun (key, rest) => ((key, empty), rest)

def flowValue? (stops : List Token) : Nat → List Token → Option (Node × List Token)
  | 0, _ => none
  | fuel + 1, tokens =>
    match tokens with
    | .value :: rest => optionalNode? false false stops fuel rest
    | rest => some (empty, rest)

/-- The tokens after the comma that every item but the first needs. -/
def afterComma? (isFirst : Bool) : List Token → Option (List Token)
  | .comma :: rest => if isFirst then some (.comma :: rest) else some rest
  | tokens => if isFirst then some tokens else none

end

def endsStream (tokens : List Token) : Bool := tokens.all (· = .documentEnd)

/-- The tokens of an explicit document after its mark, if its directives are followed by one. -/
def afterDirectives? : List Token → Option (List Token)
  | .directive :: rest => afterDirectives? rest
  | .documentStart :: rest => some rest
  | _ => none

def whole? : Option (Node × List Token) → Option Node
  | some (node, rest) => if endsStream rest then some node else none
  | none => none

/--
The document of a stream, or `none` inside if there is no document.  No node
takes more than five steps for each of its tokens, which bounds the recursion.
-/
def ofTokens? (tokens : List Token) : Option (Option Node) :=
  let fuel := 5 * tokens.length + 5
  match tokens, afterDirectives? tokens with
  | [], _ => some none
  | _, some rest =>
    (whole? (optionalNode? true false [.documentStart, .documentEnd] fuel rest)).map some
  | tokens, none => (whole? (node? true false fuel tokens)).map some

end Node

end PropertyGraph.Yaml
