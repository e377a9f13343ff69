import Scenario.Double.Reader
import Scenario.Json.Basic

/-!
# The values of plain scalars

What a scalar without quotes stands for: null, a truth value, an integer, a
decimal number, or otherwise a text. Integers may be written in base 2, 8,
10 or 16; decimal digits behind a needless zero are a text.
-/

namespace Scenario.Yaml

open Scenario.Text

def isNullWord (text : String) : Bool :=
  text == "null" || text == "Null" || text == "NULL" || text == "~"

def truth? (text : String) : Option Bool :=
  if text == "true" || text == "True" || text == "TRUE" then some true
  else if text == "false" || text == "False" || text == "FALSE" then some false
  else none

/-- Digits of some base, at least one. -/
def digitsOf? (base : Nat) (cs : List Char) : Option Nat :=
  if cs.isEmpty then none else digitsIn? base 0 cs

/-- A number without its sign. -/
def magnitude? : List Char → Option Nat
  | '0' :: 'x' :: cs => digitsOf? 16 cs
  | '0' :: 'o' :: cs => digitsOf? 8 cs
  | '0' :: 'b' :: cs => digitsOf? 2 cs
  | ['0'] => some 0
  | '0' :: _ => none
  | cs => digitsOf? 10 cs

/-- A number with an optional plus sign. -/
def unsigned? : List Char → Option Nat
  | '+' :: cs => magnitude? cs
  | cs => magnitude? cs

/-- A number with an optional sign. -/
def whole? : List Char → Option Int
  | '-' :: cs => (magnitude? cs).map fun n => -(n : Int)
  | cs => (unsigned? cs).map Int.ofNat

/-- Whether decimal digits stand behind a needless zero. -/
def isPadded (cs : List Char) : Bool :=
  let digits :=
    match cs with
    | c :: rest => if c = '+' ∨ c = '-' then rest else cs
    | [] => []
  match digits with
  | '0' :: _ :: _ => digits.all isDigit
  | _ => false

/-- A decimal number; infinity and what is not a number are written with a
point. -/
def double? (cs : List Char) : Option Double :=
  let text := String.ofList cs
  let unsigned :=
    match cs with
    | '+' :: rest => rest
    | _ => cs
  let word := String.ofList unsigned
  if word = ".inf" ∨ word = ".Inf" ∨ word = ".INF" then some (.infinite false)
  else if text = "-.inf" ∨ text = "-.Inf" ∨ text = "-.INF" then some (.infinite true)
  else if text = ".nan" ∨ text = ".NaN" ∨ text = ".NAN" then some .nan
  else if cs.head? = some '+' ∧ (unsigned.head? = some '+' ∨ unsigned.head? = some '-') then none
  else (Double.read? unsigned).filter Double.isFinite

/-- A number as a value; one without digits is null. -/
def ofDouble (x : Double) : Json :=
  if x.isFinite then .number (.float x) else .null

/-- The integer that a text stands for, if it does; an integer of more than
64 bits but at most 128 is no value. -/
def integer? (cs : List Char) : Option (Option Json) := do
  let i ← whole? cs
  if -0x8000000000000000 ≤ i ∧ i < 0x10000000000000000 then some (some (.ofInt i))
  else if -0x80000000000000000000000000000000 ≤ i ∧ i < 0x100000000000000000000000000000000 then
    some none
  else none

/-- The value of a plain scalar, unless it is an integer that is no value. -/
def plainValue? (text : String) : Option Json :=
  let cs := text.toList
  if text.isEmpty || isNullWord text then some .null
  else
    match truth? text with
    | some b => some (.bool b)
    | none =>
      match integer? cs with
      | some value => value
      | none =>
        match if isPadded cs then none else double? cs with
        | some x => some (ofDouble x)
        | none => some (.string text)

example : whole? "-0x1F".toList = some (-31) := by decide
example : whole? "017".toList = none := by decide

end Scenario.Yaml
