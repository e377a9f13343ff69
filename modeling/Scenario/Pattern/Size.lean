import Scenario.Pattern.Syntax

/-!
# Sizes of patterns

A pattern that is too large is refused before it is used. Its size is
counted in the bytes of a machine that reads the UTF-8 form of a text one
byte after another: a state takes 32 bytes, a way on from a state that
has many takes 4, and a range of ASCII characters takes 8.

Code points whose encodings have one length are numbers of as many digits
to the base 64. A range of them is cut into *boxes*: a box is a list of
ranges, one for each digit, and holds all numbers whose digits lie in
them. The boxes of a set form a tree, in which boxes with the same first
ranges share nodes; every node is a state of the machine.
-/

namespace Scenario

namespace CharSet

/-- The stretches of code points whose encodings have one length, with the
number of bytes after the first. Surrogates have no encoding. -/
def encodedStretches : List (Nat × Nat × Nat) :=
  [(0, 0x7f, 0), (0x80, 0x7ff, 1), (0x800, 0xd7ff, 2), (0xe000, 0xffff, 2),
    (0x10000, last, 3)]

/-- The boxes of the numbers from `a` to `b`, which have `digits` digits
after the first. -/
def boxes : (digits a b : Nat) → List (List (Nat × Nat))
  | 0, a, b => [[(a, b)]]
  | digits + 1, a, b =>
    let unit := Nat.pow 64 (digits + 1)
    let top := a / unit
    let bottom := b / unit
    if top = bottom then (boxes digits (a % unit) (b % unit)).map ((top, top) :: ·)
    else
      let startsFull := a % unit = 0
      let endsFull := b % unit = unit - 1
      let before :=
        if startsFull then [] else (boxes digits (a % unit) (unit - 1)).map ((top, top) :: ·)
      let after := if endsFull then [] else (boxes digits 0 (b % unit)).map ((bottom, bottom) :: ·)
      let first := if startsFull then top else top + 1
      let final := if endsFull then bottom else bottom - 1
      let full := (first, final) :: List.replicate (digits + 1) (0, 63)
      before ++ (if first ≤ final then [full] else []) ++ after

/-- The part of the set in a stretch as boxes, in increasing order. -/
def boxesWithin (s : CharSet) (low high digits : Nat) : List (List (Nat × Nat)) :=
  s.ranges.flatMap fun (a, b) =>
    if a ≤ high ∧ low ≤ b then boxes digits (max a low) (min b high) else []

/-- How many ranges two boxes share at their starts. -/
def shared : List (Nat × Nat) → List (Nat × Nat) → Nat
  | r :: rs, q :: qs => if r = q then shared rs qs + 1 else 0
  | _, _ => 0

/-- How many nodes a tree of boxes has: what a box shares with the one
before it is there already. -/
def treeSize (before : List (Nat × Nat)) : List (List (Nat × Nat)) → Nat
  | [] => 0
  | box :: rest => box.length - shared before box + treeSize box rest

/-- The bytes of the machine for one character of the set. -/
def size (s : CharSet) : Nat :=
  let trees := encodedStretches.map fun (low, high, digits) => s.boxesWithin low high digits
  match s.ranges with
  | [] => 32
  | [(a, b)] => if a = b then 32 * total (trees.map (treeSize [])) else spread trees
  | _ => if s.ranges.all (·.2 < 0x80) then 64 + 8 * s.ranges.length else spread trees
where
  /-- A state that leads to all boxes, and one where they meet. -/
  spread (trees : List (List (List (Nat × Nat)))) : Nat :=
    64 + 32 * total (trees.map (treeSize [])) + 4 * total (trees.map List.length)
  total (sizes : List Nat) : Nat :=
    sizes.foldl (· + ·) 0

end CharSet

namespace Pattern

/-- The bytes of the machine for a pattern. -/
def size : Pattern → Nat
  | empty => 32
  | char set => set.size
  | assertion _ => 32
  | capture _ body => body.size + 64
  | seq p q => p.size + q.size
  | either p q => p.size + q.size + 40
  | times body least most _ =>
    match most with
    | some most =>
      if least < most then least * body.size + (most - least) * (body.size + 40) + 32
      else max 32 (least * body.size)
    | none => (max least 1) * body.size + (if body.nullable then 112 else 40)

/-- The most bytes that a pattern may take. -/
def maxSize : Nat := 10485760

end Pattern

end Scenario
