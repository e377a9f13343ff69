/-!
# ASCII letters and digits

Character functions that look at ASCII alone, for the places where a
format admits nothing else: digits of numbers, spellings of truth values,
escapes.
-/

namespace Scenario.Text

/-- Upper-case ASCII letters, lowered; everything else unchanged. -/
def lowerAscii (c : Char) : Char :=
  if 'A' ≤ c ∧ c ≤ 'Z' then Char.ofNat (c.toNat + 32) else c

/-- Lowers ASCII letters only. -/
def loweredAscii (s : String) : String :=
  String.ofList (s.toList.map lowerAscii)

/-- The value of a decimal digit. -/
def digit? (c : Char) : Option Nat :=
  if '0' ≤ c ∧ c ≤ '9' then some (c.toNat - '0'.toNat) else none

def isDigit (c : Char) : Bool :=
  '0' ≤ c && c ≤ '9'

def isLetter (c : Char) : Bool :=
  ('a' ≤ c && c ≤ 'z') || ('A' ≤ c && c ≤ 'Z')

/-- The value of a hexadecimal digit of either case. -/
def hexDigit? (c : Char) : Option Nat :=
  if '0' ≤ c ∧ c ≤ '9' then some (c.toNat - '0'.toNat)
  else if 'a' ≤ c ∧ c ≤ 'f' then some (c.toNat - 'a'.toNat + 10)
  else if 'A' ≤ c ∧ c ≤ 'F' then some (c.toNat - 'A'.toNat + 10)
  else none

/-- The number written by digits of base `base`, after those that make
`value`. -/
def digitsIn? (base : Nat) (value : Nat) : List Char → Option Nat
  | [] => some value
  | c :: cs =>
    match hexDigit? c with
    | some d => if d < base then digitsIn? base (base * value + d) cs else none
    | none => none

theorem digit?_isSome (c : Char) : (digit? c).isSome = isDigit c := by
  unfold digit? isDigit
  split <;> simp_all

end Scenario.Text
