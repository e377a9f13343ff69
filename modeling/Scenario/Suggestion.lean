import Scenario.Text.Case
import Scenario.Text.Search

/-!
# Suggested names

Names that look like a name which does not exist. A candidate qualifies
by an edit distance of at most two between the lower-case texts, or if
one of them contains the other; the nearest come first, and names equally
near are in order of their code points.

`editDistance` fills the table of distances row by row, and keeps two rows
of it.
-/

namespace Scenario

open Scenario.Text

namespace Suggestion

/-! ## Edit distance -/

/-- Two rows of the table of distances: the last complete one, and the one
that is written next. Until it is written, that one has the entries of an
older row. -/
structure DistanceRows (width : Nat) where
  above : Vector Nat (width + 1)
  current : Vector Nat (width + 1)
  deriving Repr, DecidableEq

namespace DistanceRows

variable {width : Nat}

/-- Before the first character of the left text: every character of the
right text so far is inserted. -/
def start (width : Nat) : DistanceRows width :=
  ⟨Vector.range (width + 1), Vector.replicate (width + 1) 0⟩

/-- Writes the entry after `column` from the three around it; `cost` is
that of putting one character in the place of the other. -/
def write (rows : DistanceRows width) (cost column : Nat) (h : column < width) :
    DistanceRows width :=
  let replaced := rows.above[column] + cost
  let entry := min (min replaced (rows.above[column + 1] + 1)) (rows.current[column] + 1)
  { rows with current := rows.current.set (column + 1) entry }

/-- Writes the row of a character of the left text, and lets the two rows
change places. -/
def next (right : Vector Char width) (rows : DistanceRows width) (c : Char) (row : Nat) :
    DistanceRows width :=
  let first := { rows with current := rows.current.set 0 (row + 1) }
  let written := width.fold
    (fun column h rows => rows.write (if c = right[column] then 0 else 1) column h) first
  ⟨written.current, written.above⟩

end DistanceRows

/-- The least number of characters to insert, delete or replace that turns
the first text into the second. -/
def editDistance (left right : List Char) : Nat :=
  let rows := left.zipIdx.foldl (fun rows (c, row) => rows.next ⟨right.toArray, rfl⟩ c row)
    (DistanceRows.start right.length)
  rows.above[right.length]

/-! ## Ranking -/

/-- The largest distance of a near name. -/
def maxDistance : Nat := 2

/-- How many names are suggested at most. -/
def maxNames : Nat := 5

structure Ranked where
  distance : Nat
  name : String
  deriving Repr, DecidableEq

/-- Nearer names first, then by code points. -/
def Ranked.atMost (a b : Ranked) : Bool :=
  a.distance < b.distance || (a.distance == b.distance && !(b.name < a.name))

/-- The rank of a candidate that qualifies; `target` is in lower case. -/
def rank? (target : List Char) (name : String) : Option Ranked :=
  let candidate := lower name.toList
  let distance := editDistance target candidate
  let related := occursIn target candidate || occursIn candidate target
  if distance ≤ maxDistance || (related && !candidate.isEmpty) then some ⟨distance, name⟩
  else none

/-- Leaves one of each run of equal names. -/
def dropRepeated : List Ranked → List Ranked
  | [] => []
  | [r] => [r]
  | a :: b :: rest => if a.name = b.name then dropRepeated (a :: rest) else a :: dropRepeated (b :: rest)

/-- The best candidates for a name that is not among them. -/
def names (target : String) (candidates : List String) : List String :=
  let wanted := lower target.toList
  if wanted.isEmpty then []
  else
    let ranked := (candidates.filter (· != target)).filterMap (rank? wanted)
    ((dropRepeated (ranked.mergeSort Ranked.atMost)).take maxNames).map Ranked.name

end Suggestion

end Scenario
