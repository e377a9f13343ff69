import Scenario.Text.Blank
import Scenario.Text.Integer

/-!
# Timestamps

Whether a text is a date and a time with an offset: `2024-01-02T03:04:05Z`,
with an optional fraction of the second, and hours and minutes of offset in
place of the `Z`. A date must be one of the calendar, and the last second
of a minute may be a leap second.
-/

namespace Scenario.Text

inductive TimestampError
  | invalid
  | tooShort
  | outOfRange
  | trailing
  deriving Repr, DecidableEq

def TimestampError.message : TimestampError → String
  | invalid => "input contains invalid characters"
  | tooShort => "premature end of input"
  | outOfRange => "input is out of range"
  | trailing => "trailing input"

namespace Timestamp

/-- Exactly so many digits, and what follows them. -/
def digitsOf (count : Nat) (cs : List Char) : Except TimestampError (Nat × List Char) :=
  let taken := cs.take count
  match digits? 0 taken with
  | none => .error .invalid
  | some n => if taken.length < count then .error .tooShort else .ok (n, cs.drop count)

/-- One of some characters. -/
def oneOf (allowed : List Char) : List Char → Except TimestampError (List Char)
  | [] => .error .tooShort
  | c :: cs => if c ∈ allowed then .ok cs else .error .invalid

def daysOf (year month : Nat) : Nat :=
  if month = 2 then
    if (year % 4 = 0 ∧ year % 100 ≠ 0) ∨ year % 400 = 0 then 29 else 28
  else if month = 4 ∨ month = 6 ∨ month = 9 ∨ month = 11 then 30
  else 31

/-- A fraction of a second, if there is one. -/
def fraction : List Char → Except TimestampError (List Char)
  | '.' :: cs =>
    match cs with
    | [] => .error .tooShort
    | c :: _ => if isDigit c then .ok (cs.dropWhile isDigit) else .error .invalid
  | cs => .ok cs

/-- A `Z`, or a sign with hours and minutes. -/
def offset : List Char → Except TimestampError (List Char)
  | [] => .error .tooShort
  | c :: cs => do
    if c = 'Z' ∨ c = 'z' then return cs
    else if c = '+' ∨ c = '-' then
      let (hours, cs) ← digitsOf 2 cs
      let (minutes, cs) ← digitsOf 2 (← oneOf [':'] cs)
      if 23 < hours ∨ 59 < minutes then .error .outOfRange else return cs
    else .error .invalid

/-- Reads a timestamp and forgets it. -/
def check (text : String) : Except TimestampError Unit := do
  let (year, cs) ← digitsOf 4 text.toList
  let (month, cs) ← digitsOf 2 (← oneOf ['-'] cs)
  let (day, cs) ← digitsOf 2 (← oneOf ['-'] cs)
  let (hour, cs) ← digitsOf 2 (← oneOf ['T', 't', ' '] cs)
  let (minute, cs) ← digitsOf 2 (← oneOf [':'] cs)
  let (second, cs) ← digitsOf 2 (← oneOf [':'] cs)
  let cs ← offset (← fraction cs)
  if month < 1 ∨ 12 < month ∨ day < 1 ∨ daysOf year month < day ∨ 23 < hour ∨ 59 < minute ∨
      60 < second then .error .outOfRange
  else if !cs.isEmpty then .error .trailing
  else return ()

end Timestamp

end Scenario.Text
