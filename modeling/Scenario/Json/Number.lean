import Scenario.Double.Reader
import Scenario.Double.Shortest

/-!
# Numbers in values

A number is an integer of at most 64 bits, signed or unsigned, or a finite
double. `1` and `1.0` are different numbers.

Reading keeps the leading digits that fit a 64-bit significand and scales
it by one rounded power of ten, so a long decimal may end one unit beside
the nearest double; integers that fit are exact.
-/

namespace Scenario

open Scenario.Text

inductive Number
  | integer (value : Int)
  | float (value : Double)
  deriving Repr

namespace Number

/-- Two floats compare by value, so the two zeros are equal. -/
def equals : Number → Number → Bool
  | integer i, integer j => i == j
  | float x, float y => x.equals y
  | _, _ => false

instance : BEq Number := ⟨equals⟩

def text : Number → List Char
  | integer i => (toString i).toList
  | float x => x.text .compact

/-- The value as a signed 64-bit integer, if it is one. -/
def signed? : Number → Option Int
  | integer i => if i < 0x8000000000000000 then some i else none
  | float _ => none

/-! ## Reading -/

/-- Extends a significand by digits as long as it stays below `2^64`; gives
it with the number of digits taken and the number left. -/
def takeDigits (significand taken : Nat) : List Char → Nat × Nat × Nat
  | [] => (significand, taken, 0)
  | c :: cs =>
    match digit? c with
    | some d =>
      let next := 10 * significand + d
      if next ≤ wordLimit then takeDigits next (taken + 1) cs
      else (significand, taken, (c :: cs).length)
    | none => (significand, taken, (c :: cs).length)

/-- The double `10^e`. -/
def powerOfTen (e : Nat) : Nat :=
  match Double.ofRatio false (Nat.pow 10 e) 1 with
  | .finite _ units => units
  | _ => 0

/-- Scales a significand by `10^e` with one rounding for each power of ten
up to `10^308`; too large a result is refused. -/
def scale? (negative : Bool) (significand : Nat) (e : Int) : Option Double :=
  let start :=
    match Double.ofRatio false significand 1 with
    | .finite _ units => units
    | _ => 0
  let divided (u : Nat) (e : Nat) : Nat :=
    match Double.quotientOfUnits false u (powerOfTen e) with
    | .finite _ units => units
    | _ => 0
  if significand = 0 then some (.finite negative 0)
  else if e > 308 then none
  else if 0 ≤ e then
    match Double.productOfUnits negative start (powerOfTen e.toNat) with
    | .finite s units => some (.finite s units)
    | _ => none
  else if -308 ≤ e then some (.finite negative (divided start (-e).toNat))
  else if -616 ≤ e then some (.finite negative (divided (divided start 308) (-e - 308).toNat))
  else some (.finite negative 0)

/-- An integer part: no leading zero. -/
def isWhole : List Char → Bool
  | [] => false
  | ['0'] => true
  | c :: cs => c != '0' && (c :: cs).all isDigit

/-- A number without fraction or exponent. -/
def ofWhole? (negative : Bool) (digits : List Char) : Option Number := do
  let n ← unsigned? digits
  if negative then
    if n = 0 then some (float (.finite true 0))
    else if n ≤ 0x8000000000000000 then some (integer (-n))
    else
      let (significand, _, left) := takeDigits 0 0 digits
      (scale? true significand left).map float
  else if n ≤ wordLimit then some (integer n)
  else
    let (significand, _, left) := takeDigits 0 0 digits
    (scale? false significand left).map float

/-- A number with a fraction, an exponent or both. -/
def ofParts? (negative : Bool) (whole fraction : List Char) (exponent : Int) : Option Number :=
  let (first, _, dropped) := takeDigits 0 0 whole
  let (significand, taken, _) := takeDigits first 0 fraction
  (scale? negative significand (exponent + dropped - taken)).map float

/-- A number from all of the text, in the grammar of JSON. -/
def read? (cs : List Char) : Option Number := do
  let (negative, body) :=
    match cs with
    | '-' :: rest => (true, rest)
    | _ => (false, cs)
  let whole := body.takeWhile isDigit
  if !isWhole whole then none
  else
    match body.dropWhile isDigit with
    | [] => ofWhole? negative whole
    | '.' :: rest =>
      let fraction := rest.takeWhile isDigit
      if fraction.isEmpty then none
      else
        match rest.dropWhile isDigit with
        | [] => ofParts? negative whole fraction 0
        | c :: rest =>
          if c = 'e' ∨ c = 'E' then do ofParts? negative whole fraction (← Double.exponent? rest)
          else none
    | c :: rest =>
      if c = 'e' ∨ c = 'E' then do ofParts? negative whole [] (← Double.exponent? rest)
      else none

end Number

end Scenario
