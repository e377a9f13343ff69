import Scenario.Pattern.Program

/-!
# Matching

The machine reads the text once. Its threads are in order of preference;
at every position the threads are advanced to the instructions that take a
character, an instruction is entered by the first thread that reaches it,
and a thread that accepts ends all that are less preferred. As long as
nothing has matched, a new thread starts at every position. So the match
found is the leftmost, and of those the preferred one.
-/

namespace Scenario

/-- The positions that a thread has noted, by slot. -/
abbrev Slots : Type := List (Nat × Nat)

/-- The latest position noted in a slot. -/
def Slots.get? (slots : Slots) (slot : Nat) : Option Nat :=
  (slots.find? fun s => s.1 == slot).map (·.2)

/-- Where the machine stands in the text. -/
structure Position where
  index : Nat
  before : Option Char
  after : Option Char
  deriving Repr

namespace Assertion

def isWordAt (ascii : Bool) (c : Option Char) : Bool :=
  match c with
  | some c => if ascii then CharSet.asciiWord.holds c else CharSet.word.holds c
  | none => false

/-- Whether an assertion holds at a position. -/
def holds (a : Assertion) (p : Position) : Bool :=
  match a with
  | textStart => p.before.isNone
  | textEnd => p.after.isNone
  | lineStart => p.before.isNone || p.before == some '\n'
  | lineEnd => p.after.isNone || p.after == some '\n'
  | lineStartCrlf =>
    p.before.isNone || p.before == some '\n' ||
      (p.before == some '\r' && p.after != some '\n')
  | lineEndCrlf =>
    p.after.isNone || p.after == some '\r' ||
      (p.after == some '\n' && p.before != some '\r')
  | wordBoundary ascii => isWordAt ascii p.before != isWordAt ascii p.after
  | notWordBoundary ascii => isWordAt ascii p.before == isWordAt ascii p.after
  | wordStart ascii => !isWordAt ascii p.before && isWordAt ascii p.after
  | wordEnd ascii => isWordAt ascii p.before && !isWordAt ascii p.after
  | wordStartHalf ascii => !isWordAt ascii p.before
  | wordEndHalf ascii => !isWordAt ascii p.after

end Assertion

namespace Pattern

/-- A thread: the instruction it stands at and the positions noted. -/
structure Thread where
  place : Nat
  slots : Slots

/-- A thread that has been advanced: it takes a character, or it accepts. -/
inductive Ready
  | takes (set : CharSet) (next : Thread)
  | accepts (slots : Slots)

/-- Advances threads, in order of preference, over the instructions that
take no character. Each instruction is entered once, so the fuel is never
used up. -/
def advance (program : Array Instruction) (p : Position) :
    Nat → List Thread → Array Bool → List Ready → List Ready
  | 0, _, _, ready => ready.reverse
  | _, [], _, ready => ready.reverse
  | fuel + 1, t :: threads, entered, ready =>
    if entered.getD t.place true then advance program p fuel threads entered ready
    else
      let entered := entered.setIfInBounds t.place true
      match program[t.place]? with
      | none => advance program p fuel threads entered ready
      | some instruction =>
        match instruction with
        | .char set =>
          advance program p fuel threads entered (.takes set ⟨t.place + 1, t.slots⟩ :: ready)
        | .assertion a =>
          if a.holds p then
            advance program p fuel (⟨t.place + 1, t.slots⟩ :: threads) entered ready
          else advance program p fuel threads entered ready
        | .save slot =>
          advance program p fuel (⟨t.place + 1, (slot, p.index) :: t.slots⟩ :: threads) entered
            ready
        | .jump target => advance program p fuel (⟨target, t.slots⟩ :: threads) entered ready
        | .split first second =>
          advance program p fuel (⟨first, t.slots⟩ :: ⟨second, t.slots⟩ :: threads) entered ready
        | .accept => advance program p fuel threads entered (.accepts t.slots :: ready)

/-- The threads after a character, and the match if one accepts before. -/
def take (c : Option Char) : List Ready → List Thread × Option Slots
  | [] => ([], none)
  | .accepts slots :: _ => ([], some slots)
  | .takes set next :: rest =>
    let (threads, found) := take c rest
    match c with
    | some c => if set.holds c then (next :: threads, found) else (threads, found)
    | none => (threads, found)

/-- Runs the machine from a position on; `best` is the match found so
far. -/
def run (program : Array Instruction) (index : Nat) (before : Option Char)
    (threads : List Thread) (best : Option Slots) (text : List Char) : Option Slots :=
  let p : Position := ⟨index, before, text.head?⟩
  let threads := if best.isNone then threads ++ [⟨0, []⟩] else threads
  let ready := advance program p (4 * program.size + threads.length + 1) threads
    (Array.replicate program.size false) []
  let (next, found) := take text.head? ready
  let best := found.or best
  match text with
  | [] => best
  | c :: rest =>
    if next.isEmpty && best.isSome then best else run program (index + 1) (some c) next best rest

/-- The positions noted by the match of a pattern in a text. -/
def find? (p : Pattern) (text : List Char) : Option Slots :=
  run p.program 0 none [] none text

end Pattern

end Scenario
