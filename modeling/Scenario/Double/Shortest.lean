import Scenario.Double.Basic

/-!
# Shortest decimal text of a double

The decimal text of a double has the fewest digits that read back as the
same double; of several such decimals it is the nearest, and of two
equally near ones the even one.

For 1, 2, … 17 digits the two neighbours of the value on the grid of that
many digits are tested against the interval of reals that round to the
double. If any point of a grid lies in the interval, one of the two
neighbours does, so the first grid with a hit gives the fewest digits.

How the digits are laid out is a separate decision, a `Layout`.
-/

namespace Scenario.Double

/-- The decimal `coefficient · 10^exponent`. -/
structure Decimal where
  coefficient : Nat
  exponent : Int
  deriving Repr, DecidableEq

/-- The quotient `num / den` times `10^-e`, as a quotient. -/
def scaleDown (num den : Nat) (e : Int) : Nat × Nat :=
  if e < 0 then (num * Nat.pow 10 (-e).toNat, den) else (num, den * Nat.pow 10 e.toNat)

/-- The reals that round to a double of `units` units, by their ends in
quarter units and whether the ends belong to them. -/
structure RoundingInterval where
  low : Nat
  high : Nat
  closed : Bool

/-- Half a gap on either side; below a power of two the gap is half as
wide. The ends round to the double if its significand is even. -/
def roundingInterval (units : Nat) : RoundingInterval :=
  let s := gapExponent units
  let gap := 1 <<< s
  let significand := units / gap
  let below := if significand = 1 <<< 52 ∧ 0 < s then gap else 2 * gap
  { low := 4 * units - below, high := 4 * units + 2 * gap, closed := significand % 2 == 0 }

/-- Whether the quotient `num / den`, in quarter units, lies in the
interval. -/
def RoundingInterval.holds (i : RoundingInterval) (num den : Nat) : Bool :=
  if i.closed then
    i.low * den ≤ num && num ≤ i.high * den
  else
    i.low * den < num && num < i.high * den

/-- Whether `10^e` is at most the value. -/
def powerBelow (units : Nat) (e : Int) : Bool :=
  let (n, d) := scaleDown units unitsPerOne e
  d ≤ n

/-- The exponent of the leading digit, searched upwards from an estimate
that is never too high. -/
def leadingExponent (units : Nat) : Int :=
  let estimate := ((Nat.log2 units : Int) - 1074) * 30103 / 100000 - 2
  if powerBelow units (estimate + 3) then estimate + 3
  else if powerBelow units (estimate + 2) then estimate + 2
  else if powerBelow units (estimate + 1) then estimate + 1
  else estimate

/-- The neighbour of the value with `10^e` as its last digit that reads
back, if there is one: the nearer of two. -/
def onGrid? (interval : RoundingInterval) (units : Nat) (e : Int) : Option Nat :=
  let (n, d) := scaleDown units unitsPerOne e
  let below := n / d
  let readsBack (k : Nat) : Bool :=
    let (num, den) := scaleDown (4 * unitsPerOne * k) 1 (-e)
    interval.holds num den
  match readsBack below, readsBack (below + 1) with
  | true, true => some (roundQuotient n d)
  | true, false => some below
  | false, true => some (below + 1)
  | false, false => none

/-- Tries finer and finer grids; the last one is taken as it comes. -/
def searchGrids (interval : RoundingInterval) (units : Nat) (lead : Int) :
    (digits remaining : Nat) → Decimal
  | digits, 0 =>
    let e := lead - digits
    let (n, d) := scaleDown units unitsPerOne e
    ⟨roundQuotient n d, e⟩
  | digits, remaining + 1 =>
    let e := lead - digits
    match onGrid? interval units e with
    | some k => ⟨k, e⟩
    | none => searchGrids interval units lead (digits + 1) remaining

/-- The shortest decimal that reads back as the double of `units` units. -/
def shortest (units : Nat) : Decimal :=
  searchGrids (roundingInterval units) units (leadingExponent units) 0 16

/-! ## Layout -/

/-- The digits of a decimal without trailing zeros, and the exponent of the
first one. -/
def Decimal.significant (d : Decimal) : List Char × Int :=
  let digits := Nat.toDigits 10 d.coefficient
  let kept := (digits.reverse.dropWhile (· == '0')).reverse
  (if kept.isEmpty then ['0'] else kept, d.exponent + (digits.length - 1 : Nat))

/-- Digits around a decimal point, at least one on either side. -/
def positional (digits : List Char) (e : Int) : List Char :=
  if e < 0 then
    ['0', '.'] ++ List.replicate (-e - 1).toNat '0' ++ digits
  else
    let whole := e.toNat + 1
    if digits.length ≤ whole then
      digits ++ List.replicate (whole - digits.length) '0' ++ ['.', '0']
    else
      digits.take whole ++ ['.'] ++ digits.drop whole

/-- One digit before the point, the rest after it, and a signed exponent. -/
def scientific (digits : List Char) (e : Int) : List Char :=
  let mantissa :=
    match digits with
    | first :: second :: rest => first :: '.' :: second :: rest
    | _ => digits
  mantissa ++ ['e', if e < 0 then '-' else '+'] ++ Nat.toDigits 10 e.natAbs

/-- Which exponents of the leading digit are written with a decimal point
alone. -/
structure Layout where
  isPositional : Int → Bool

/-- The text of a double. -/
def text (layout : Layout) : Double → List Char
  | nan => "NaN".toList
  | infinite s => (if s then "-inf" else "inf").toList
  | finite s units =>
    let (digits, e) := if units = 0 then (['0'], 0) else (shortest units).significant
    (if s then ['-'] else []) ++
      if layout.isPositional e then positional digits e else scientific digits e

/-- Values are written positionally from `0.00001` up to sixteen digits
before the point. -/
def Layout.compact : Layout := ⟨fun e => -5 ≤ e && e < 16⟩

/-- Messages never use an exponent. -/
def Layout.expanded : Layout := ⟨fun _ => true⟩

end Scenario.Double
