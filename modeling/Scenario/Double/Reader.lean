import Scenario.Double.Basic
import Scenario.Text.Integer

/-!
# Reading a double

A number has an optional sign, digits with an optional decimal point (at
least one digit on some side), and an optional exponent; `inf`,
`infinity` and `nan` are read in any case. The result is the double
nearest to the decimal, infinite if it is too large.
-/

namespace Scenario.Double

open Scenario.Text

/-- The nearest double to `coefficient · 10^exponent`, where `coefficient`
was written with `length` digits. Far outside the range of doubles the
power of ten is not computed. -/
def ofDecimal (negative : Bool) (coefficient length : Nat) (exponent : Int) : Double :=
  if coefficient = 0 then finite negative 0
  else if exponent > 400 then infinite negative
  else if exponent + length < -400 then finite negative 0
  else if exponent < 0 then ofRatio negative coefficient (Nat.pow 10 (-exponent).toNat)
  else ofRatio negative (coefficient * Nat.pow 10 exponent.toNat) 1

/-- The exponent after its mark: an optional sign and digits, all of the
text. -/
def exponent? : List Char → Option Int
  | '-' :: cs => (unsigned? cs).map fun n => -(n : Int)
  | '+' :: cs => (unsigned? cs).map Int.ofNat
  | cs => (unsigned? cs).map Int.ofNat

/-- The number without its sign. -/
def magnitude? (negative : Bool) (cs : List Char) : Option Double := do
  let whole := cs.takeWhile isDigit
  let afterWhole := cs.dropWhile isDigit
  let (fraction, rest) :=
    match afterWhole with
    | '.' :: tail => (tail.takeWhile isDigit, tail.dropWhile isDigit)
    | _ => ([], afterWhole)
  let coefficient ← unsigned? (whole ++ fraction)
  let exponent ←
    match rest with
    | [] => some 0
    | c :: tail => if c = 'e' ∨ c = 'E' then exponent? tail else none
  return ofDecimal negative coefficient (whole.length + fraction.length)
    (exponent - fraction.length)

/-- A word for a value without digits, in any case. -/
def word? (negative : Bool) (cs : List Char) : Option Double :=
  let word := String.ofList (cs.map lowerAscii)
  if word = "nan" then some nan
  else if word = "inf" ∨ word = "infinity" then some (infinite negative)
  else none

/-- A double from all of the text. -/
def read? (cs : List Char) : Option Double :=
  let (negative, rest) :=
    match cs with
    | '-' :: tail => (true, tail)
    | '+' :: tail => (false, tail)
    | _ => (false, cs)
  (magnitude? negative rest).or (word? negative rest)

end Scenario.Double
