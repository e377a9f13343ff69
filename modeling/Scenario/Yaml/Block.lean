import Scenario.Yaml.Source

/-!
# Block scalars

A literal or folded scalar starts with a header and holds the lines below
that are indented by its own indentation: the one that the header asks for,
or that of its first line. The header also says what becomes of the breaks
at the end.
-/

namespace Scenario.Yaml

/-- What becomes of the breaks behind the last line. -/
inductive Chomping
  | strip
  | clip
  | keep
  deriving Repr, DecidableEq

structure BlockHeader where
  folded : Bool
  chomping : Chomping := .clip
  /-- The indentation relative to the surrounding one. -/
  increment : Option Nat := none
  deriving Repr, DecidableEq

namespace BlockHeader

def chomping? : List Spot → Option (Chomping × List Spot)
  | [] => none
  | s :: rest =>
    if s.char = '+' then some (.keep, rest)
    else if s.char = '-' then some (.strip, rest)
    else none

def digit? : List Spot → Option (Nat × List Spot)
  | [] => none
  | s :: rest => (Text.digit? s.char).map fun d => (d, rest)

/-- The indicators of a header, in any order; an indentation is not 0. -/
def indicators? (folded : Bool) (spots : List Spot) : Option (BlockHeader × List Spot) :=
  let (header, rest) : BlockHeader × List Spot :=
    match chomping? spots with
    | some (chomping, rest) =>
      match digit? rest with
      | some (d, rest) => (⟨folded, chomping, some d⟩, rest)
      | none => (⟨folded, chomping, none⟩, rest)
    | none =>
      match digit? spots with
      | some (d, rest) =>
        match chomping? rest with
        | some (chomping, rest) => (⟨folded, chomping, some d⟩, rest)
        | none => (⟨folded, .clip, some d⟩, rest)
      | none => (⟨folded, .clip, none⟩, spots)
  if header.increment = some 0 then none else some (header, rest)

/-- The header behind its first character, to the end of its line. -/
def read? (folded : Bool) (spots : List Spot) : Option (BlockHeader × List Spot) := do
  let (header, rest) ← indicators? folded spots
  return (header, ← closeLine? rest)

end BlockHeader

/-- Passes the empty lines before the first line; gives their breaks, the
last first, and the greatest column that was seen. Without a given
indentation all spaces belong to it; tabs do not. -/
def passEmptyLines? (given : Option Nat) : (deepest : Nat) → (breaks : List Char) → List Spot →
    Option (Nat × List Char × List Spot)
  | deepest, breaks, [] => some (deepest, breaks, [])
  | deepest, breaks, s :: rest =>
    let indenting := given.all fun indent => s.column < indent
    let deepest := max deepest s.column
    if s.char = ' ' ∧ indenting then passEmptyLines? given deepest breaks rest
    else if s.char = '\t' ∧ indenting then none
    else if s.isBreak then passEmptyLines? given deepest (s.char :: breaks) rest
    else some (deepest, breaks, s :: rest)

/-- What has been read of a block scalar. -/
structure BlockText where
  /-- The characters before, the last first. -/
  done : List Char := []
  /-- The break of the last line. -/
  lineBreak : Option Char := none
  /-- The breaks of the empty lines after it, the last first. -/
  breaks : List Char := []
  /-- Whether the last line starts with a space. -/
  spaced : Bool := false

namespace BlockText

/-- Starts a line with its first character. Between two lines that do not
start with a space a single break is folded. -/
def startLine (t : BlockText) (folded : Bool) (c : Char) : BlockText :=
  let before :=
    match t.lineBreak with
    | none => t.done
    | some b =>
      if folded && b == '\n' && !t.spaced && !isSpace c then
        if t.breaks.isEmpty then ' ' :: t.done else t.done
      else b :: t.done
  { done := c :: (t.breaks ++ before), spaced := isSpace c }

def finish (t : BlockText) (chomping : Chomping) : String :=
  let ended := t.lineBreak.toList ++ t.done
  let cs :=
    match chomping with
    | .strip => t.done
    | .clip => ended
    | .keep => t.breaks ++ ended
  String.ofList cs.reverse

end BlockText

/-- Reads the lines of a block scalar; `inLine` says whether a line has
been started. -/
def blockLines? (header : BlockHeader) (indent : Nat) : (inLine : Bool) → BlockText → List Spot →
    Option (String × List Spot)
  | _, t, [] => some (t.finish header.chomping, [])
  | true, t, s :: rest =>
    if s.isBreak then
      blockLines? header indent false { t with lineBreak := some s.char, breaks := [] } rest
    else blockLines? header indent true { t with done := s.char :: t.done } rest
  | false, t, s :: rest =>
    if s.char = ' ' ∧ s.column < indent then blockLines? header indent false t rest
    else if s.char = '\t' ∧ s.column < indent then none
    else if s.isBreak then
      blockLines? header indent false { t with breaks := s.char :: t.breaks } rest
    else if s.column = indent then
      blockLines? header indent true (t.startLine header.folded s.char) rest
    else some (t.finish header.chomping, s :: rest)

/-- The text of a block scalar behind its first character, where the
surrounding indentation is `outer`; none is that of the whole document. -/
def block? (folded : Bool) (outer : Option Nat) (spots : List Spot) :
    Option (String × List Spot) := do
  let (header, rest) ← BlockHeader.read? folded spots
  let given := header.increment.map fun n => outer.getD 0 + n
  let (deepest, breaks, rest) ← passEmptyLines? given 0 [] rest
  let least := outer.elim 1 (· + 1)
  let indent := given.getD (max deepest least)
  blockLines? header indent false { breaks } rest

end Scenario.Yaml
