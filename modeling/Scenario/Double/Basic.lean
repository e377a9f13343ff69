/-!
# 64-bit binary floating-point numbers

A finite double is a sign and a count of units of `2^-1074`, the smallest
positive double. Sums of this scale make every operation exact integer
arithmetic followed by one rounding: `ofRatio` takes a quotient of natural
numbers to the nearest double, and of two equally near ones to the one
with an even significand.
-/

namespace Scenario

inductive Double
  | nan
  | infinite (negative : Bool)
  | finite (negative : Bool) (units : Nat)
  deriving Repr, DecidableEq

/-- The quotient rounded to the nearest integer, a half to the even one. -/
def roundQuotient (num den : Nat) : Nat :=
  let q := num / den
  let r := num % den
  if 2 * r < den then q else if den < 2 * r then q + 1 else q + q % 2

namespace Double

/-- How many units make one. -/
def unitsPerOne : Nat := 1 <<< 1074

/-- The units from which on a magnitude is infinite. -/
def infinityUnits : Nat := 1 <<< 2098

/-- The exponent of the gap between neighbouring doubles, in units, at a
magnitude of so many units. -/
def gapExponent (units : Nat) : Nat :=
  Nat.log2 units - 52

/-- The double nearest to `num / den`, a tie going to the even significand;
too large a quotient is infinite. -/
def ofRatio (negative : Bool) (num den : Nat) : Double :=
  let scaled := num * unitsPerOne
  let s := gapExponent (scaled / den)
  let units := roundQuotient scaled (den <<< s) <<< s
  if units < infinityUnits then finite negative units else infinite negative

def isFinite : Double → Bool
  | finite _ _ => true
  | _ => false

/-- The place of a double on the number line, in units; infinities stand
beyond every finite double, and both zeros at the same place. -/
def place? : Double → Option Int
  | nan => none
  | infinite s => some (if s then -(infinityUnits : Int) else infinityUnits)
  | finite s u => some (if s then -(u : Int) else u)

/-- The order of two doubles; none if one of them is not a number. -/
def compare? (x y : Double) : Option Ordering := do
  return compare (← x.place?) (← y.place?)

/-- Numeric equality: the two zeros are equal, and what is not a number
equals nothing. -/
def equals (x y : Double) : Bool :=
  x.compare? y == some .eq

/-- Divides two magnitudes in units, rounded. -/
def quotientOfUnits (negative : Bool) (u v : Nat) : Double :=
  ofRatio negative u v

/-- Multiplies two magnitudes in units, rounded. -/
def productOfUnits (negative : Bool) (u v : Nat) : Double :=
  ofRatio negative (u * v) (unitsPerOne * unitsPerOne)

end Double

end Scenario
