import Scenario.Double.Reader
import Scenario.Text.Blank

/-!
# Durations

A duration is a count of nanoseconds that fits 64 bits of seconds. It is
written as a number with a unit, `ms`, `s`, `m` or `h`; a bare number
means seconds, and an empty text no time at all. The number is read as a
double, converted to seconds, and rounded to the nearest nanosecond.

`delayAfter` is the pause between two attempts. It never leaves the range
of durations: what would be longer is the longest duration.
-/

namespace Scenario

open Scenario.Text

def Duration.nanosecondsPerSecond : Nat := 1000000000

def Duration.maxNanoseconds : Nat := (wordLimit + 1) * nanosecondsPerSecond - 1

structure Duration where
  nanoseconds : Nat
  le_max : nanoseconds ≤ Duration.maxNanoseconds := by decide
  deriving Repr, DecidableEq

namespace Duration

def zero : Duration := { nanoseconds := 0 }

/-- The longest duration. -/
def longest : Duration := ⟨maxNanoseconds, Nat.le_refl _⟩

def seconds (d : Duration) : Nat :=
  d.nanoseconds / nanosecondsPerSecond

def subsecondNanoseconds (d : Duration) : Nat :=
  d.nanoseconds % nanosecondsPerSecond

def milliseconds (d : Duration) : Nat :=
  d.nanoseconds / 1000000

/-- A multiple of a duration, at most the longest one. -/
def times (d : Duration) (factor : Nat) : Duration :=
  ⟨min (d.nanoseconds * factor) maxNanoseconds, Nat.min_le_right _ _⟩

/-- The nearest count of nanoseconds to a number of seconds, a tie going to
the even one. -/
def ofSeconds? : Double → Option Duration
  | .finite false units =>
    let n := roundQuotient (units * nanosecondsPerSecond) Double.unitsPerOne
    if h : n ≤ maxNanoseconds then some ⟨n, h⟩ else none
  | .finite true 0 => some zero
  | _ => none

/-- Where a unit begins: at the first letter. -/
def splitUnit (cs : List Char) : List Char × List Char :=
  (cs.takeWhile fun c => !isLetter c, cs.dropWhile fun c => !isLetter c)

/-- A number of a unit, in seconds. -/
def toSeconds? (value : Double) (unit : String) : Option Double :=
  let units :=
    match value with
    | .finite _ u => u
    | _ => 0
  let negative :=
    match value with
    | .finite s _ => s
    | _ => false
  match loweredAscii unit with
  | "" | "s" => some value
  | "ms" => some (Double.ofRatio negative units (1000 * Double.unitsPerOne))
  | "m" => some (Double.ofRatio negative (units * 60) Double.unitsPerOne)
  | "h" => some (Double.ofRatio negative (units * 3600) Double.unitsPerOne)
  | _ => none

/-- A finite number that is not below zero. -/
def isAmount : Double → Bool
  | .finite negative units => !negative || units == 0
  | _ => false

/-- Reads a duration. -/
def parse? (text : String) : Option Duration :=
  let cs := trim text.toList
  if cs.isEmpty then some zero
  else do
    let (number, unit) := splitUnit cs
    let value ← Double.read? (trim number)
    if isAmount value then
      ofSeconds? (← toSeconds? value (String.ofList (trim unit)))
    else none

/-- What is wrong with a text that is no duration. -/
def malformed (text : String) : String :=
  s!"'{text}' is not a duration (expected forms like 500ms, 1s, 1.5s, 2m, 1h)"

end Duration

/-- How the pauses between attempts grow. -/
inductive Backoff
  | fixed
  | linear
  | exponential
  deriving Repr, DecidableEq, Inhabited

namespace Backoff

def all : List Backoff := [fixed, linear, exponential]

def label : Backoff → String
  | fixed => "fixed"
  | linear => "linear"
  | exponential => "exponential"

/-- The multiple of the base delay after the attempt of an index counted
from zero, never above the largest 32-bit number. -/
def factor (b : Backoff) (index : Nat) : Nat :=
  match b with
  | fixed => 1
  | linear => min (index + 1) halfWordLimit
  | exponential => if index < 32 then 1 <<< index else halfWordLimit

/-- The pause after the attempt of an index counted from zero. -/
def delayAfter (b : Backoff) (base : Duration) (index : Nat) : Duration :=
  base.times (b.factor index)

theorem factor_le (b : Backoff) (index : Nat) : b.factor index ≤ halfWordLimit := by
  cases b with
  | fixed => simp [factor, halfWordLimit]
  | linear => exact Nat.min_le_right _ _
  | exponential =>
      show (if index < 32 then 1 <<< index else halfWordLimit) ≤ halfWordLimit
      split
      · next h =>
          have := Nat.pow_lt_pow_right (show 1 < 2 by decide) h
          rw [Nat.one_shiftLeft]
          unfold halfWordLimit
          omega
      · exact Nat.le_refl _

end Backoff

end Scenario
