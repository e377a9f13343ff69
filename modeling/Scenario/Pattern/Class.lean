import Scenario.Pattern.Escape

/-!
# Character classes

What stands between `[` and `]`: characters, ranges, escapes, named
classes and nested classes, joined by union; `&&`, `--` and `~~` take the
intersection, the difference and the symmetric difference of what stands
on their sides, from left to right. A hyphen or a closing bracket at the
start stands for itself.
-/

namespace Scenario

open Scenario.Text

inductive SetOperation
  | inter
  | difference
  | symmetricDifference
  deriving Repr, DecidableEq

def SetOperation.apply : SetOperation → CharSet → CharSet → CharSet
  | inter => CharSet.inter
  | difference => CharSet.difference
  | symmetricDifference => CharSet.symmetricDifference

/-- A class that is still open. -/
structure OpenClass where
  negated : Bool
  /-- An operation that waits for its right side. -/
  pending : Option (SetOperation × CharSet) := none
  union : CharSet := .empty

namespace OpenClass

def add (c : OpenClass) (s : CharSet) : OpenClass :=
  { c with union := ⟨c.union.ranges ++ s.ranges⟩ }

/-- The set of the operands read so far. -/
def operand (c : OpenClass) : CharSet :=
  match c.pending with
  | some (op, left) => op.apply left (CharSet.normal c.union.ranges)
  | none => CharSet.normal c.union.ranges

def operate (c : OpenClass) (op : SetOperation) : OpenClass :=
  { c with pending := some (op, c.operand), union := .empty }

def result? (f : Flags) (c : OpenClass) : Option CharSet :=
  if c.negated then f.complement? c.operand else some c.operand

/-- Opens a class after its bracket. -/
def start (f : Flags) (cs : List Char) : OpenClass × List Char :=
  let cs := f.skip cs
  let (negated, cs) :=
    match cs with
    | '^' :: rest => (true, f.skip rest)
    | _ => (false, cs)
  match cs with
  | ']' :: rest => ({ negated, union := .ofChar ']' }, rest)
  | _ =>
    if cs.head? = some '-' then ({ negated, union := .ofChar '-' }, hyphens f cs)
    else ({ negated }, cs)
where
  hyphens (f : Flags) : List Char → List Char
    | '-' :: rest => hyphens f rest
    | cs => f.skip cs

/-- One member: a character or the set of an escape. -/
def member? (f : Flags) : List Char → Option (Escaped × List Char)
  | [] => none
  | '\\' :: rest => Escaped.read? f rest
  | c :: rest => some (.char c, rest)

/-- A member, or a range if a hyphen and another member follow. -/
def range? (f : Flags) (cs : List Char) : Option (CharSet × List Char) := do
  let (first, rest) ← member? f cs
  let rest := f.skip rest
  let single : Option (CharSet × List Char) :=
    match first with
    | .char c => (f.cased? (.ofChar c)).map fun s => (s, rest)
    | .set s => some (s, rest)
    | .assertion _ => none
  match rest with
  | '-' :: after =>
    match f.skip after with
    | [] => none
    | next :: more =>
      if next = ']' ∨ next = '-' then single
      else
        let (second, rest) ← member? f (next :: more)
        match first, second with
        | .char a, .char b =>
          if a ≤ b then (f.cased? (.ofRange a.toNat b.toNat)).map fun s => (s, rest) else none
        | _, _ => none
  | _ => single

/-- A named class such as `[:alpha:]`, after its first bracket. -/
def named? (f : Flags) (cs : List Char) : Option (CharSet × List Char) :=
  match cs with
  | ':' :: rest =>
    let (negated, rest) :=
      match rest with
      | '^' :: after => (true, after)
      | _ => (false, rest)
    match rest.dropWhile (· != ':') with
    | ':' :: ']' :: after => do
      let s ← CharSet.named? (String.ofList (rest.takeWhile (· != ':')))
      let s ← f.cased? s
      return (← if negated then f.complement? s else some s, after)
    | _ => none
  | _ => none

/-- Reads up to the bracket that closes the outermost class; `classes` are
the open ones, the innermost first. Every round takes a character, so the
length of the text is fuel enough. -/
def readFrom (f : Flags) : Nat → List OpenClass → List Char → Option (CharSet × List Char)
  | 0, _, _ => none
  | _, [], _ => none
  | fuel + 1, top :: below, cs =>
    match f.skip cs with
    | [] => none
    | ']' :: rest =>
      match top.result? f, below with
      | none, _ => none
      | some s, [] => some (s, rest)
      | some s, outer :: more => readFrom f fuel (outer.add s :: more) rest
    | '[' :: rest =>
      match named? f rest with
      | some (s, after) => readFrom f fuel (top.add s :: below) after
      | none =>
        let (inner, after) := start f rest
        readFrom f fuel (inner :: top :: below) after
    | '&' :: '&' :: rest => readFrom f fuel (top.operate .inter :: below) rest
    | '-' :: '-' :: rest => readFrom f fuel (top.operate .difference :: below) rest
    | '~' :: '~' :: rest => readFrom f fuel (top.operate .symmetricDifference :: below) rest
    | c :: rest =>
      match range? f (c :: rest) with
      | some (s, after) => readFrom f fuel (top.add s :: below) after
      | none => none

/-- Reads a class after its bracket. -/
def read? (f : Flags) (cs : List Char) : Option (CharSet × List Char) :=
  let (top, rest) := start f cs
  readFrom f (cs.length + 1) [top] rest

end OpenClass

end Scenario
