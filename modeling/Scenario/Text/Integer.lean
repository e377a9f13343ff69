import Scenario.Text.Ascii

/-!
# Decimal integers

Reading an integer of a given range from decimal digits. A sign is
optional, leading zeros are allowed, and nothing else is: no blanks, no
separators, no second sign. A value outside the range is refused like a
malformed text.
-/

namespace Scenario.Text

/-- The number written by a list of digits, most significant first, after
the digits that make `value`. -/
def digits? (value : Nat) : List Char → Option Nat
  | [] => some value
  | c :: cs =>
    match digit? c with
    | some d => digits? (10 * value + d) cs
    | none => none

/-- A number of at least one digit. -/
def unsigned? : List Char → Option Nat
  | [] => none
  | cs => digits? 0 cs

/-- A natural number not above `limit`, with an optional `+`. -/
def natural? (limit : Nat) (cs : List Char) : Option Nat := do
  let n ← match cs with
    | '+' :: rest => unsigned? rest
    | _ => unsigned? cs
  if n ≤ limit then some n else none

/-- The largest 64-bit natural number. -/
def wordLimit : Nat := 0xffffffffffffffff

/-- The largest 32-bit natural number. -/
def halfWordLimit : Nat := 0xffffffff

/-- An integer between `-2^63` and `2^63 - 1`, with an optional sign. -/
def integer? (cs : List Char) : Option Int := do
  let i ← match cs with
    | '-' :: rest => (unsigned? rest).map fun n => -(n : Int)
    | '+' :: rest => (unsigned? rest).map Int.ofNat
    | _ => (unsigned? cs).map Int.ofNat
  if -0x8000000000000000 ≤ i ∧ i < 0x8000000000000000 then some i else none

example : natural? wordLimit "+007".toList = some 7 := by decide
example : natural? wordLimit "18446744073709551616".toList = none := by decide
example : integer? "-9223372036854775808".toList = some (-0x8000000000000000) := by decide
example : integer? "-".toList = none := by decide

end Scenario.Text
