import Scenario.Pattern.Reader
import Scenario.Pattern.Size

/-!
# Programs of patterns

A pattern becomes a list of instructions for a machine with many threads.
A split prefers its first target; a repetition of something that may take
no character is written as an optional repetition of at least one time, so
that the order of preference is kept.
-/

namespace Scenario

inductive Instruction
  /-- Takes one character of the set. -/
  | char (set : CharSet)
  | assertion (a : Assertion)
  /-- Notes the position. -/
  | save (slot : Nat)
  | jump (target : Nat)
  /-- Goes on at both targets, the first one preferred. -/
  | split (first second : Nat)
  | accept
  deriving Repr, DecidableEq

namespace Instruction

/-- A split that prefers to go on with the body if greedy. -/
def choose (greedy : Bool) (body after : Nat) : Instruction :=
  if greedy then split body after else split after body

end Instruction

namespace Pattern

open Instruction

/-- Copies of a part one after another. -/
def copies (code : Nat → List Instruction) : (count start : Nat) → List Instruction
  | 0, _ => []
  | count + 1, start =>
    let first := code start
    first ++ copies code count (start + first.length)

/-- Up to `count` copies, each behind a choice to leave for `after`. -/
def optionalCopies (code : Nat → List Instruction) (greedy : Bool) (size after : Nat) :
    (count start : Nat) → List Instruction
  | 0, _ => []
  | count + 1, start =>
    choose greedy (start + 1) after ::
      (code (start + 1) ++ optionalCopies code greedy size after count (start + 1 + size))

/-- The instructions of a pattern placed from `start` on; they end by going
on after the last. -/
def code : Pattern → Nat → List Instruction
  | empty, _ => []
  | char set, _ => [.char set]
  | assertion a, _ => [.assertion a]
  | capture index body, start =>
    .save (2 * index) :: (body.code (start + 1) ++ [.save (2 * index + 1)])
  | seq p q, start =>
    let first := p.code start
    first ++ q.code (start + first.length)
  | either p q, start =>
    let first := p.code (start + 1)
    let second := q.code (start + first.length + 2)
    .split (start + 1) (start + first.length + 2) :: (first ++
      .jump (start + first.length + 2 + second.length) :: second)
  | times body least most greedy, start =>
    match most with
    | some most =>
      if most = 0 then []
      else
        let size := (body.code start).length
        let required := copies body.code least start
        let next := start + required.length
        required ++
          optionalCopies body.code greedy size (next + (most - least) * (size + 1)) (most - least)
            next
    | none =>
      if least = 0 then
        if body.nullable then
          let inner := body.code (start + 1)
          let leave := start + inner.length + 2
          choose greedy (start + 1) leave :: (inner ++ [choose greedy (start + 1) leave])
        else
          let inner := body.code (start + 1)
          choose greedy (start + 1) (start + inner.length + 2) :: (inner ++ [.jump start])
      else
        let required := copies body.code (least - 1) start
        let next := start + required.length
        let last := body.code next
        required ++ last ++ [choose greedy next (next + last.length + 1)]

/-- Why a pattern is refused. -/
inductive Refusal
  | malformed
  | tooLarge
  deriving Repr, DecidableEq

def Refusal.message : Refusal → String
  | malformed => "regex parse error: the pattern is not well formed"
  | tooLarge => s!"Compiled regex exceeds size limit of {maxSize} bytes."

/-- The pattern written by a text, if it is not too large. -/
def read? (text : String) : Except Refusal Pattern :=
  match parse? text with
  | none => .error .malformed
  | some p => if p.size ≤ maxSize then .ok p else .error .tooLarge

/-- The program of a pattern: the whole match is group zero. -/
def program (p : Pattern) : Array Instruction :=
  ((capture 0 p).code 0 ++ [Instruction.accept]).toArray

end Pattern

end Scenario
