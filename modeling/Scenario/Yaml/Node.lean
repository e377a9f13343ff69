import Scenario.Yaml.Token

/-!
# The tree of a document

Tokens make a tree of scalars, lists and maps. Anchors name nodes, and an
alias stands for the last node with its name; the tree has that node in
its place. An alias inside the node that it stands for has no finite tree:
it becomes `endless`, which fits nothing.

A document has few aliases for what it holds: following more than a
hundred for each part of it is refused.
-/

namespace Scenario.Yaml

inductive Node
  | scalar (tag : Option String) (style : Style) (text : String)
  | list (tag : Option String) (items : List Node)
  | map (tag : Option String) (entries : List (Node × Node))
  | endless
  deriving Repr

namespace Node

/-- A value that is left out. -/
def empty : Node :=
  .scalar none .plain ""

/-- The depth of nesting; a scalar has none. -/
def height : Node → Nat
  | scalar _ _ _ => 0
  | list _ items => itemsHeight items + 1
  | map _ entries => entriesHeight entries + 1
  | endless => 0
where
  itemsHeight : List Node → Nat
    | [] => 0
    | n :: ns => max n.height (itemsHeight ns)
  entriesHeight : List (Node × Node) → Nat
    | [] => 0
    | (k, v) :: rest => max (max k.height v.height) (entriesHeight rest)

end Node

/-! ## Composing -/

/-- A node that has a name. -/
structure Anchor where
  name : String
  /-- The node, once its end has been read. -/
  node : Option Node := none
  /-- How many aliases were followed in it. -/
  followed : Nat := 0

/-- What is known while a tree is composed. -/
structure Composing where
  tokens : List Token
  /-- What handles of tags stand for. -/
  handles : List (String × String) := []
  /-- The anchors so far, the last first. -/
  anchors : List Anchor := []
  /-- How many aliases were followed. -/
  followed : Nat := 0
  /-- How many parts the document has: scalars, aliases, and the start and
  the end of each collection. -/
  parts : Nat := 0

abbrev Compose := StateT Composing Option

/-- How many aliases may be followed for each part of a document. -/
def maxFollowed : Nat := 100

/-- How deep a tree may be. -/
def maxHeight : Nat := 128

/-- What the standard handles stand for. -/
def standardHandles : List (String × String) :=
  [("!", "!"), ("!!", "tag:yaml.org,2002:")]

namespace Compose

def peek : Compose (Option Token) := do
  return (← get).tokens.head?

def advance : Compose Unit :=
  modify fun c => { c with tokens := c.tokens.tail }

/-- Takes the next token. -/
def next : Compose (Option Token) := do
  let t ← peek
  advance
  return t

/-- Whether the next token is one of these. -/
def nextIsOneOf (tokens : List Token) : Compose Bool := do
  return (← peek).any tokens.contains

def count (parts : Nat) : Compose Unit :=
  modify fun c => { c with parts := c.parts + parts }

/-- A value that is left out. -/
def leftOut : Compose Node := do
  count 1
  return .empty

/-! ### Properties -/

/-- The tag that a written one stands for. -/
def meaningOf (t : TagText) : Compose String := do
  if t.handle.isEmpty then return t.suffix
  else
    match (← get).handles.lookup t.handle with
    | some meaning => return meaning ++ t.suffix
    | none => failure

/-- An anchor and a tag in any order, each at most once. -/
def properties : Compose (Option String × Option String) := do
  match ← peek with
  | some (.anchor name) =>
    advance
    match ← peek with
    | some (.tag t) =>
      advance
      return (some name, some (← meaningOf t))
    | _ => return (some name, none)
  | some (.tag t) =>
    advance
    let tag ← meaningOf t
    match ← peek with
    | some (.anchor name) =>
      advance
      return (some name, some tag)
    | _ => return (none, some tag)
  | _ => return (none, none)

/-- The node that an alias stands for. -/
def follow (name : String) : Compose Node := do
  match (← get).anchors.find? (·.name == name) with
  | none => failure
  | some a =>
    modify fun c => { c with followed := c.followed + 1 + a.followed, parts := c.parts + 1 }
    return a.node.getD .endless

/-- Composes a node that may have a name; the name stands for it from its
start on. -/
def named (name : Option String) (compose : Compose Node) : Compose Node := do
  match name with
  | none => compose
  | some name =>
    let before ← get
    set { before with anchors := { name } :: before.anchors }
    let node ← compose
    modify fun c =>
      let place := c.anchors.length - before.anchors.length - 1
      let anchor := { name, node, followed := c.followed - before.followed }
      { c with anchors := c.anchors.set place anchor }
    return node

/-- A scalar with its tag; a lone exclamation mark is none. -/
def scalar (tag : Option String) (style : Style) (text : String) : Compose Node := do
  count 1
  return .scalar (tag.filter (· != "!")) style text

/-! ### Nodes

`inBlock` says whether a block collection may start, and `inMap` whether a
block list may start without an indentation of its own, as the value of a
map. -/

mutual

def node (inBlock inMap : Bool) : Nat → Compose Node
  | 0 => failure
  | n + 1 => do
    match ← peek with
    | some (.alias name) =>
      advance
      follow name
    | _ =>
      let (name, tag) ← properties
      named name (content inBlock inMap tag (name.isSome || tag.isSome) n)

/-- A node behind its properties; with some, it may be left out. -/
def content (inBlock inMap : Bool) (tag : Option String) (hasProperties : Bool) :
    Nat → Compose Node
  | 0 => failure
  | n + 1 => do
    match ← peek, inBlock, inMap with
    | some .blockEntry, _, true =>
      count 2
      return .list tag (← looseItems n)
    | some (.scalar style text), _, _ =>
      advance
      scalar tag style text
    | some .flowList, _, _ =>
      advance
      count 2
      return .list tag (← flowItems true n)
    | some .flowMap, _, _ =>
      advance
      count 2
      return .map tag (← flowEntries true n)
    | some .blockList, true, _ =>
      advance
      count 2
      return .list tag (← blockItems n)
    | some .blockMap, true, _ =>
      advance
      count 2
      return .map tag (← blockEntries n)
    | _, _, _ =>
      if hasProperties then
        count 1
        return .scalar tag .plain ""
      else failure

/-- The items of a block list to its end. -/
def blockItems : Nat → Compose (List Node)
  | 0 => failure
  | n + 1 => do
    match ← next with
    | some .blockEntry =>
      let item ← if ← nextIsOneOf [.blockEntry, .blockEnd] then leftOut else node true false n
      return item :: (← blockItems n)
    | some .blockEnd => return []
    | _ => failure

/-- The items of a block list that ends with its last item. -/
def looseItems : Nat → Compose (List Node)
  | 0 => failure
  | n + 1 => do
    match ← peek with
    | some .blockEntry =>
      advance
      let item ←
        if ← nextIsOneOf [.blockEntry, .key, .value, .blockEnd] then leftOut
        else node true false n
      return item :: (← looseItems n)
    | _ => return []

/-- A key or a value of a block map. -/
def blockPart : Nat → Compose Node
  | 0 => failure
  | n + 1 => do
    if ← nextIsOneOf [.key, .value, .blockEnd] then leftOut else node true true n

/-- The entries of a block map to its end. -/
def blockEntries : Nat → Compose (List (Node × Node))
  | 0 => failure
  | n + 1 => do
    match ← next with
    | some .key =>
      let key ← blockPart n
      let value ←
        match ← peek with
        | some .value =>
          advance
          blockPart n
        | _ => leftOut
      return (key, value) :: (← blockEntries n)
    | some .blockEnd => return []
    | _ => failure

/-- The items of a list in brackets to its end; all but the first follow a
comma, and one may follow the last. -/
def flowItems (isFirst : Bool) : Nat → Compose (List Node)
  | 0 => failure
  | n + 1 => do
    if !isFirst && !(← nextIsOneOf [.flowEntry, .flowListEnd]) then failure
    if !isFirst && (← nextIsOneOf [.flowEntry]) then advance
    match ← peek with
    | some .flowListEnd =>
      advance
      return []
    | some .key =>
      advance
      let pair ← flowPair n
      return .map none [pair] :: (← flowItems false n)
    | _ =>
      let item ← node false false n
      return item :: (← flowItems false n)

/-- An entry that stands in a list. Where the key is left out, the token
that shows it is passed over. -/
def flowPair : Nat → Compose (Node × Node)
  | 0 => failure
  | n + 1 => do
    count 2
    let key ←
      if ← nextIsOneOf [.value, .flowEntry, .flowListEnd] then
        advance
        leftOut
      else node false false n
    return (key, ← flowValue .flowListEnd n)

/-- The value of an entry in brackets, if there is one. -/
def flowValue (ended : Token) : Nat → Compose Node
  | 0 => failure
  | n + 1 => do
    match ← peek with
    | some .value =>
      advance
      if ← nextIsOneOf [.flowEntry, ended] then leftOut else node false false n
    | _ => leftOut

/-- The entries of a map in braces to its end; all but the first follow a
comma, and one may follow the last. A node alone is a key. -/
def flowEntries (isFirst : Bool) : Nat → Compose (List (Node × Node))
  | 0 => failure
  | n + 1 => do
    if !isFirst && !(← nextIsOneOf [.flowEntry, .flowMapEnd]) then failure
    if !isFirst && (← nextIsOneOf [.flowEntry]) then advance
    match ← peek with
    | some .flowMapEnd =>
      advance
      return []
    | some .key =>
      advance
      let key ←
        if ← nextIsOneOf [.value, .flowEntry, .flowMapEnd] then leftOut
        else node false false n
      let value ← flowValue .flowMapEnd n
      return (key, value) :: (← flowEntries false n)
    | _ =>
      let key ← node false false n
      let value ← leftOut
      return (key, value) :: (← flowEntries false n)

end

/-! ### Documents -/

/-- Takes the directives before a document: at most one version, which is
1.1 or 1.2, and every handle once. -/
def directives (versioned : Bool) (named : List String) : List Token → Compose Unit
  | .directive (.version major minor) :: tokens =>
    if versioned || major != 1 || (minor != 1 && minor != 2) then failure
    else directives true named tokens
  | .directive (.handle name meaning) :: tokens => do
    if named.contains name then failure
    modify fun c => { c with handles := (name, meaning) :: c.handles }
    directives versioned (name :: named) tokens
  | tokens => modify fun c => { c with tokens }

/-- Whether a document with a start of its own comes next. -/
def isMarked : Option Token → Bool
  | some (.directive _) => true
  | some .documentStart => true
  | _ => false

/-- The tree of the next document; no node needs more than four steps for
each token. -/
def document : Compose Node := do
  let steps := 4 * ((← get).tokens.length + 1)
  let first ← peek
  if first.isNone then leftOut
  else if isMarked first then
    directives false [] (← get).tokens
    if (← next) != some .documentStart then failure
    let start ← peek
    if start.isNone || isMarked start || start == some .documentEnd then leftOut
    else node true false steps
  else node true false steps

/-- A document with nothing behind it. -/
def onlyDocument : Compose Node := do
  let root ← document
  let c ← get
  if c.tokens.all (· == .documentEnd) && c.followed ≤ maxFollowed * c.parts && root.height ≤ maxHeight
  then return root
  else failure

end Compose

/-- The tree of the only document of a text. -/
def Node.ofText? (text : String) : Option Node := do
  let tokens ← Token.ofSpots? (← Yaml.ofText? text)
  let (root, _) ← Compose.onlyDocument.run { tokens, handles := standardHandles }
  return root

end Scenario.Yaml
