import Scenario.Yaml.Block
import Scenario.Yaml.Quoted
import Scenario.Yaml.Tag

/-!
# Tokens

A document as a list of tokens. Indentation becomes tokens too: a block
collection starts where an entry is indented more than what surrounds it,
and ends before the first token that is indented less.

That something is a key is known only at the colon behind it. So the place
of each token that may be one is remembered, and the colon puts the token
`key` there. Such a key fits on one line and is at most 1024 characters
long.
-/

namespace Scenario.Yaml

/-- How a scalar is written. -/
inductive Style
  | plain
  | quoted
  | literal
  | folded
  deriving Repr, DecidableEq

inductive Token
  | directive (d : Directive)
  | documentStart
  | documentEnd
  | blockList
  | blockMap
  | blockEnd
  | flowList
  | flowListEnd
  | flowMap
  | flowMapEnd
  | blockEntry
  | flowEntry
  | key
  | value
  | alias (name : String)
  | anchor (name : String)
  | tag (t : TagText)
  | scalar (style : Style) (text : String)
  deriving Repr, DecidableEq

/-- Where a key may have started. -/
structure KeyStart where
  /-- How many tokens are before it. -/
  place : Nat
  line : Nat
  index : Nat
  column : Nat
  /-- Whether nothing but a key can stand there. -/
  required : Bool
  deriving Repr, DecidableEq

/-- The layout of a document up to some character. -/
structure Layout where
  /-- The tokens so far, the last first. -/
  tokens : List Token := []
  count : Nat := 0
  /-- The columns of the open block collections, the innermost first. -/
  indents : List Nat := []
  /-- Whether a key may start here. -/
  keyAllowed : Bool := true
  /-- The last place where a key of the innermost collection may start. -/
  keyStart : Option KeyStart := none
  /-- The same for the collections around open brackets, the innermost
  first. -/
  outerStarts : List (Option KeyStart) := []

/-- How long a key may be. -/
def maxKeyLength : Nat := 1024

/-- Puts tokens behind the first `place` of a list that has the last
first. -/
def insertTokens (new : List Token) : (behind : Nat) → List Token → List Token
  | 0, tokens => new.reverse ++ tokens
  | _ + 1, [] => new.reverse
  | n + 1, t :: tokens => t :: insertTokens new n tokens

namespace Layout

/-- Whether some bracket is open. -/
def inFlow (l : Layout) : Bool :=
  !l.outerStarts.isEmpty

/-- The least indentation of the lines of a scalar. -/
def scalarIndent (l : Layout) : Nat :=
  l.indents.head?.elim 0 (· + 1)

def push (l : Layout) (t : Token) : Layout :=
  { l with tokens := t :: l.tokens, count := l.count + 1 }

/-- Puts tokens behind the first `place`. -/
def insertAt (l : Layout) (place : Nat) (new : List Token) : Layout :=
  { l with
    tokens := insertTokens new (l.count - place) l.tokens
    count := l.count + new.length }

/-- Ends the block collections whose entries are indented more than to
`column`; without a column, all. -/
def unindent (l : Layout) (column : Option Nat) : Layout :=
  if l.inFlow then l
  else
    let closed := l.indents.takeWhile fun indent => column.all (· < indent)
    { l with
      indents := l.indents.drop closed.length
      tokens := closed.map (fun _ => Token.blockEnd) ++ l.tokens
      count := l.count + closed.length }

/-- Whether an entry at `column` starts a block collection. -/
def startsBlock (l : Layout) (column : Nat) : Bool :=
  !l.inFlow && l.indents.head?.all (· < column)

/-- Starts a block collection before an entry at `column`, if none is open
there. -/
def indent (l : Layout) (column : Nat) (start : Token) : Layout :=
  if l.startsBlock column then { l.push start with indents := column :: l.indents } else l

/-! ## Keys -/

/-- Gives up the place where a key may have started. -/
def dropKeyStart? (l : Layout) : Option Layout :=
  if l.keyStart.any KeyStart.required then none else some { l with keyStart := none }

/-- Remembers that a key may start here. -/
def markKeyStart? (l : Layout) (s : Spot) : Option Layout :=
  if !l.keyAllowed then some l
  else do
    let required := !l.inFlow && l.indents.head? == some s.column
    let l ← l.dropKeyStart?
    return { l with keyStart := some ⟨l.count, s.line, s.index, s.column, required⟩ }

/-- Whether a key that started there may go on here. -/
def KeyStart.reaches (k : KeyStart) (s : Spot) : Bool :=
  k.line == s.line && s.index ≤ k.index + maxKeyLength

/-- Gives up the places that are too far away. -/
def dropFarKeyStarts? (l : Layout) (s : Spot) : Option Layout :=
  let isLost (k : KeyStart) : Bool := k.required && !KeyStart.reaches k s
  if l.keyStart.any isLost || l.outerStarts.any (·.any isLost) then none
  else
    some { l with
      keyStart := l.keyStart.filter (KeyStart.reaches · s)
      outerStarts := l.outerStarts.map (·.filter (KeyStart.reaches · s)) }

/-! ## Brackets -/

def openBracket? (l : Layout) (s : Spot) (start : Token) : Option Layout := do
  let l ← l.markKeyStart? s
  return { l.push start with
    keyAllowed := true, keyStart := none, outerStarts := l.keyStart :: l.outerStarts }

def closeBracket? (l : Layout) (ended : Token) : Option Layout := do
  let l ← l.dropKeyStart?
  let l := { l.push ended with keyAllowed := false }
  match l.outerStarts with
  | [] => return l
  | outer :: more => return { l with keyStart := outer, outerStarts := more }

/-! ## Indicators -/

/-- An entry of a block list, which starts the list where keys may start. -/
def blockEntry? (l : Layout) (s : Spot) : Option Layout :=
  if !l.inFlow && !l.keyAllowed then none
  else do
    let l ← (l.indent s.column .blockList).dropKeyStart?
    return { l.push .blockEntry with keyAllowed := true }

def flowEntry? (l : Layout) : Option Layout := do
  let l ← l.dropKeyStart?
  return { l.push .flowEntry with keyAllowed := true }

/-- A question mark before a key. -/
def explicitKey? (l : Layout) (s : Spot) : Option Layout :=
  if !l.inFlow && !l.keyAllowed then none
  else do
    let l ← (l.indent s.column .blockMap).dropKeyStart?
    return { l.push .key with keyAllowed := !l.inFlow }

/-- A colon before a value. It makes what stands at the remembered place a
key; without one the key is empty or was marked. -/
def value? (l : Layout) (s : Spot) : Option Layout :=
  match l.keyStart with
  | some k =>
    let (new, indents) :=
      if l.startsBlock k.column then ([Token.blockMap, .key], k.column :: l.indents)
      else ([Token.key], l.indents)
    let l := l.insertAt k.place new
    some { l.push .value with indents, keyStart := none, keyAllowed := false }
  | none =>
    if !l.inFlow && !l.keyAllowed then none
    else
      let l := l.indent s.column .blockMap
      some { l.push .value with keyAllowed := !l.inFlow }

/-- What stands between documents ends all block collections. -/
def boundary? (l : Layout) (t : Token) : Option Layout := do
  let l ← (l.unindent none).dropKeyStart?
  return { l.push t with keyAllowed := false }

/-- What belongs to a node and may start a key. -/
def property? (l : Layout) (s : Spot) (t : Token) : Option Layout := do
  let l ← l.markKeyStart? s
  return { l.push t with keyAllowed := false }

end Layout

/-! ## Reading tokens -/

/-- Skips spaces, comments and breaks; gives whether a key may start then.
A tab may not indent what may be a key. -/
def skipGap (inFlow : Bool) : (keyAllowed inComment : Bool) → List Spot → Bool × List Spot
  | keyAllowed, _, [] => (keyAllowed, [])
  | keyAllowed, inComment, s :: rest =>
    if s.isBreak then skipGap inFlow (keyAllowed || !inFlow) false rest
    else if inComment || s.char == ' ' || (s.char == '\t' && (inFlow || !keyAllowed)) ||
        (s.char == byteOrderMark && s.column == 0) then
      skipGap inFlow keyAllowed inComment rest
    else if s.char == '#' then skipGap inFlow keyAllowed true rest
    else (keyAllowed, s :: rest)

/-- Reads a scalar that is not plain. -/
def styledScalar? (l : Layout) (s : Spot) (rest : List Spot) : Option (Layout × List Spot) :=
  let ofQuoted (kind : QuoteKind) : Option (Layout × List Spot) := do
    let (text, rest) ← quoted? kind rest
    return (← l.property? s (.scalar .quoted text), rest)
  let ofBlock (style : Style) : Option (Layout × List Spot) := do
    let (text, rest) ← block? (style == .folded) l.indents.head? rest
    let l ← l.dropKeyStart?
    return ({ l.push (.scalar style text) with keyAllowed := true }, rest)
  match s.char with
  | '|' => if l.inFlow then none else ofBlock .literal
  | '>' => if l.inFlow then none else ofBlock .folded
  | '\x27' => ofQuoted .single
  | '"' => ofQuoted .double
  | _ => none

def plainScalar? (l : Layout) (s : Spot) (rest : List Spot) : Option (Layout × List Spot) :=
  if !startsPlain l.inFlow (s :: rest) then none
  else do
    let p ← plain? l.inFlow l.scalarIndent (s :: rest)
    let l ← l.property? s (.scalar .plain p.text)
    return ({ l with keyAllowed := p.crossedLine }, p.rest)

/-- Reads one token, which starts with the character `s`. -/
def nextToken? (l : Layout) (s : Spot) (rest : List Spot) : Option (Layout × List Spot) :=
  let ofLayout (l : Option Layout) : Option (Layout × List Spot) := l.map fun l => (l, rest)
  if s.column = 0 ∧ s.char = '%' then do
    let (d, rest) ← directive? rest
    return (← l.boundary? (.directive d), rest)
  else if isMarkerOf '-' (s :: rest) then (l.boundary? .documentStart).map fun l => (l, rest.drop 2)
  else if isMarkerOf '.' (s :: rest) then (l.boundary? .documentEnd).map fun l => (l, rest.drop 2)
  else
    match s.char with
    | '[' => ofLayout (l.openBracket? s .flowList)
    | '\x7b' => ofLayout (l.openBracket? s .flowMap)
    | ']' => ofLayout (l.closeBracket? .flowListEnd)
    | '\x7d' => ofLayout (l.closeBracket? .flowMapEnd)
    | ',' => ofLayout l.flowEntry?
    | '-' => if atGap rest then ofLayout (l.blockEntry? s) else plainScalar? l s rest
    | '?' => if l.inFlow || atGap rest then ofLayout (l.explicitKey? s) else plainScalar? l s rest
    | ':' => if l.inFlow || atGap rest then ofLayout (l.value? s) else plainScalar? l s rest
    | '*' => do
      let (name, rest) ← anchor? rest
      return (← l.property? s (.alias name), rest)
    | '&' => do
      let (name, rest) ← anchor? rest
      return (← l.property? s (.anchor name), rest)
    | '!' => do
      let (t, rest) ← tag? l.inFlow rest
      return (← l.property? s (.tag t), rest)
    | _ => (styledScalar? l s rest).or (plainScalar? l s rest)

/-- Reads at most so many tokens, to the end of the text. -/
def layoutWithin? : Nat → Layout → List Spot → Option Layout
  | 0, _, _ => none
  | n + 1, l, spots =>
    match skipGap l.inFlow l.keyAllowed false spots with
    | (_, []) => (l.unindent none).dropKeyStart?
    | (keyAllowed, s :: rest) => do
      let l ← { l with keyAllowed }.dropFarKeyStarts? s
      let (l, rest) ← nextToken? (l.unindent (some s.column)) s rest
      layoutWithin? n l rest

/-- The tokens of a document; none of them is empty, so there are no more
than characters. -/
def Token.ofSpots? (spots : List Spot) : Option (List Token) :=
  (layoutWithin? (spots.length + 1) {} spots).map fun l => l.tokens.reverse

end Scenario.Yaml
