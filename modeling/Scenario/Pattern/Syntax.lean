import Scenario.Pattern.CharSet

/-!
# Patterns

The tree of a regular expression after its flags have been resolved: a
character set says which single characters match, and an assertion looks
at the characters on both sides of a position without taking any.
-/

namespace Scenario

/-- A condition on a position in the text. -/
inductive Assertion
  | textStart
  | textEnd
  | lineStart
  | lineEnd
  /-- Line ends where a carriage return and a line feed count as one. -/
  | lineStartCrlf
  | lineEndCrlf
  | wordBoundary (ascii : Bool)
  | notWordBoundary (ascii : Bool)
  | wordStart (ascii : Bool)
  | wordEnd (ascii : Bool)
  | wordStartHalf (ascii : Bool)
  | wordEndHalf (ascii : Bool)
  deriving Repr, DecidableEq

inductive Pattern
  | empty
  | char (set : CharSet)
  | assertion (a : Assertion)
  | capture (index : Nat) (body : Pattern)
  | seq (first second : Pattern)
  | either (first second : Pattern)
  /-- From `least` to `most` times; as often as possible if greedy. -/
  | times (body : Pattern) (least : Nat) (most : Option Nat) (greedy : Bool)
  deriving Repr, DecidableEq

namespace Pattern

/-- Whether the pattern can match without taking a character. -/
def nullable : Pattern → Bool
  | empty => true
  | char _ => false
  | assertion _ => true
  | capture _ body => body.nullable
  | seq p q => p.nullable && q.nullable
  | either p q => p.nullable || q.nullable
  | times body least _ _ => least == 0 || body.nullable

/-- Whether the pattern never takes a character. -/
def takesNothing : Pattern → Bool
  | empty => true
  | char _ => false
  | assertion _ => true
  | capture _ body => body.takesNothing
  | seq p q => p.takesNothing && q.takesNothing
  | either p q => p.takesNothing && q.takesNothing
  | times body _ most _ => most == some 0 || body.takesNothing

/-- A repetition; what takes no character is not worth repeating. -/
def repeated (p : Pattern) (least : Nat) (most : Option Nat) (greedy : Bool) : Pattern :=
  if p.takesNothing then times p (min least 1) (some (min (most.getD 1) 1)) greedy
  else times p least most greedy

/-- The highest number of a capture group; a part that is repeated zero
times has none. -/
def lastGroup : Pattern → Nat
  | capture index body => max index body.lastGroup
  | seq p q => max p.lastGroup q.lastGroup
  | either p q => max p.lastGroup q.lastGroup
  | times body _ most _ => if most = some 0 then 0 else body.lastGroup
  | _ => 0

def ofList : List Pattern → Pattern
  | [] => empty
  | [p] => p
  | p :: q :: rest => seq p (ofList (q :: rest))

def ofBranches : List Pattern → Pattern
  | [] => empty
  | [p] => p
  | p :: q :: rest => either p (ofBranches (q :: rest))

end Pattern

end Scenario
