import Scenario.Pattern.Class
import Scenario.Text.Integer

/-!
# Reading patterns

The reader takes a pattern from left to right, with a stack of the groups
that are open. It refuses what has no meaning: unbalanced parentheses, a
repetition of nothing, a count out of order, an unknown escape or flag, a
group name used twice, looking around and references back.

Whether a pattern is well formed is all that the reader says; a refusal
carries no reason and no place.
-/

namespace Scenario

open Scenario.Text

namespace Pattern

/-- A pattern with the depth of its tree; a change of flags has a place
but no pattern. -/
structure Item where
  pattern : Option Pattern
  depth : Nat := 0

/-- The deepest tree that is accepted. -/
def maxDepth : Nat := 250

/-- One item from the items of a branch, the last first. -/
def joinItems (items : List Item) : Item :=
  let depth := items.foldl (fun d i => max d i.depth) 0
  { pattern := some (.ofList (items.reverse.filterMap Item.pattern))
    depth := if items.length ≤ 1 then depth else depth + 1 }

/-- One item from the branches of an alternation, the last first. -/
def joinBranches (branches : List Item) : Item :=
  let depth := branches.foldl (fun d i => max d i.depth) 0
  { pattern := some (.ofBranches (branches.reverse.filterMap Item.pattern))
    depth := if branches.length ≤ 1 then depth else depth + 1 }

/-- A group that is open, with what stood before it. -/
structure OpenGroup where
  items : List Item
  branches : List Item
  flags : Flags
  capture : Option Nat

/-- What the reader knows. -/
structure Reading where
  flags : Flags := {}
  items : List Item := []
  branches : List Item := []
  opened : List OpenGroup := []
  /-- How many capture groups have been opened. -/
  captures : Nat := 0
  names : List String := []

namespace Reading

def push (r : Reading) (p : Pattern) : Reading :=
  { r with items := ⟨some p, 0⟩ :: r.items }

/-- Opens a group. -/
def openGroup (r : Reading) (flags : Flags) (capture : Option Nat) : Reading :=
  { r with
    flags
    items := []
    branches := []
    opened := ⟨r.items, r.branches, r.flags, capture⟩ :: r.opened }

def openCapture (r : Reading) : Reading :=
  { r.openGroup r.flags (some (r.captures + 1)) with captures := r.captures + 1 }

/-- All that was read at the present level. -/
def level (r : Reading) : Item :=
  joinBranches (joinItems r.items :: r.branches)

/-- Closes the innermost group. -/
def closeGroup? (r : Reading) : Option Reading :=
  match r.opened with
  | [] => none
  | g :: opened =>
    let inside := r.level
    let pattern :=
      match g.capture with
      | some index => inside.pattern.map (Pattern.capture index)
      | none => inside.pattern
    some { r with
      flags := g.flags
      items := ⟨pattern, inside.depth + 1⟩ :: g.items
      branches := g.branches
      opened }

/-- Repeats the last item. -/
def repeatLast? (r : Reading) (least : Nat) (most : Option Nat) (greedy : Bool) :
    Option Reading :=
  match r.items with
  | ⟨some p, depth⟩ :: before =>
    let greedy := if r.flags.swapGreed then !greedy else greedy
    some { r with items := ⟨some (p.repeated least most greedy), depth + 1⟩ :: before }
  | _ => none

end Reading

/-- A lazy mark after a repetition: whether the repetition is greedy, and
the rest. -/
def lazyMark : List Char → Bool × List Char
  | '?' :: rest => (false, rest)
  | rest => (true, rest)

/-- Digits with blanks around them. -/
def count? (cs : List Char) : Option (Nat × List Char) :=
  let cs := cs.dropWhile isBlank
  match natural? halfWordLimit (cs.takeWhile isDigit) with
  | some n => some (n, (cs.dropWhile isDigit).dropWhile isBlank)
  | none => none

/-- The counts of a repetition after its brace. -/
def counts? (f : Flags) (cs : List Char) : Option (Nat × Option Nat × List Char) := do
  let (least, rest) ← count? (f.skip cs)
  match rest with
  | '\x7d' :: rest => return (least, some least, rest)
  | ',' :: rest =>
    match f.skip rest with
    | '\x7d' :: rest => return (least, none, rest)
    | rest =>
      let (most, rest) ← count? rest
      match rest with
      | '\x7d' :: rest => if least ≤ most then return (least, some most, rest) else none
      | _ => none
  | _ => none

/-- Whether a group name may start with the character; later ones may also
be digits, dots and brackets. -/
def isNameStart (c : Char) : Bool :=
  c == '_' || (if c.toNat < 0x80 then isLetter c else CharSet.word.holds c && !CharSet.digits.holds c)

def isNameChar (c : Char) : Bool :=
  isNameStart c || c == '.' || c == '[' || c == ']' || CharSet.digits.holds c

/-- Whether a name is one that a group may have. -/
def isGroupName : List Char → Bool
  | [] => false
  | c :: cs => isNameStart c && cs.all isNameChar

/-- Opens a named group; the text starts with its name. -/
def named? (r : Reading) (cs : List Char) : Option (Reading × List Char) :=
  let name := cs.takeWhile (· != '>')
  match cs.dropWhile (· != '>') with
  | [] => none
  | _ :: rest =>
    let name' := String.ofList name
    if isGroupName name && !r.names.contains name' then
      some ({ r.openCapture with names := name' :: r.names }, rest)
    else none

/-- Opens a group or changes the flags; the text is what follows the
parenthesis. -/
def group? (r : Reading) (cs : List Char) : Option (Reading × List Char) :=
  match r.flags.skip cs with
  | '?' :: 'P' :: '<' :: rest => named? r rest
  | '?' :: '<' :: rest => named? r rest
  | '?' :: rest => do
    let (flags, after) ← r.flags.read? [] false rest
    match after with
    | ':' :: body => return (r.openGroup flags none, body)
    | _ :: body =>
      if body.length + 1 = rest.length then none
      else return ({ r with flags, items := ⟨none, 0⟩ :: r.items }, body)
    | [] => none
  | rest => some (r.openCapture, rest)

/-- The set of a dot. -/
def dot? (f : Flags) : Option CharSet :=
  if !f.unicode then none
  else if f.dotAll then some .all
  else if f.crlf then some (CharSet.complement ⟨[(0x0a, 0x0a), (0x0d, 0x0d)]⟩)
  else some (CharSet.complement ⟨[(0x0a, 0x0a)]⟩)

def startAnchor (f : Flags) : Assertion :=
  if f.multiLine then (if f.crlf then .lineStartCrlf else .lineStart) else .textStart

def endAnchor (f : Flags) : Assertion :=
  if f.multiLine then (if f.crlf then .lineEndCrlf else .lineEnd) else .textEnd

/-- The pattern of one character. -/
def literal? (f : Flags) (c : Char) : Option Pattern :=
  if f.unicode ∨ c.toNat < 0x80 then (f.cased? (.ofChar c)).map Pattern.char
  else if f.ignoreCase then none
  else some (.char (.ofChar c))

/-- A repetition, whose counts are known, of the last item. -/
def repeated? (r : Reading) (least : Nat) (most : Option Nat) (rest : List Char) :
    Option (Reading × List Char) :=
  let (greedy, rest) := lazyMark rest
  (r.repeatLast? least most greedy).map fun r => (r, rest)

/-- Reads one element and gives what follows it. -/
def element? (r : Reading) (c : Char) (rest : List Char) : Option (Reading × List Char) :=
  match c with
  | '(' => group? r rest
  | ')' => r.closeGroup?.map fun r => (r, rest)
  | '|' => some ({ r with items := [], branches := joinItems r.items :: r.branches }, rest)
  | '[' => (OpenClass.read? r.flags rest).map fun (s, rest) => (r.push (.char s), rest)
  | '*' => repeated? r 0 none rest
  | '+' => repeated? r 1 none rest
  | '?' => repeated? r 0 (some 1) rest
  | '\x7b' =>
    match counts? r.flags rest with
    | some (least, most, rest) => repeated? r least most (r.flags.skip rest)
    | none => none
  | '.' => (dot? r.flags).map fun s => (r.push (.char s), rest)
  | '^' => some (r.push (.assertion (startAnchor r.flags)), rest)
  | '$' => some (r.push (.assertion (endAnchor r.flags)), rest)
  | '\\' =>
    match Escaped.read? r.flags rest with
    | some (.char c, rest) => (literal? r.flags c).map fun p => (r.push p, rest)
    | some (.set s, rest) => some (r.push (.char s), rest)
    | some (.assertion a, rest) => some (r.push (.assertion a), rest)
    | none => none
  | _ => (literal? r.flags c).map fun p => (r.push p, rest)

/-- Reads to the end of the text. Every round takes a character, so the
length of the text is fuel enough. -/
def readFrom : Nat → Reading → List Char → Option Reading
  | fuel, r, cs =>
    match r.flags.skip cs with
    | [] => some r
    | c :: rest =>
      match fuel with
      | 0 => none
      | fuel + 1 =>
        match element? r c rest with
        | some (r, rest) => readFrom fuel r rest
        | none => none

/-- The pattern that is written by a text. -/
def parse? (text : String) : Option Pattern := do
  let cs := text.toList
  let r ← readFrom (cs.length + 1) {} cs
  if !r.opened.isEmpty then none
  else
    let all := r.level
    if maxDepth < all.depth then none else all.pattern

end Pattern

end Scenario
