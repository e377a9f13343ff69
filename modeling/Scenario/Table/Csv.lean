import Scenario.Text.Blank

/-!
# Comma-separated text

Records are lines of fields. A field that starts with a quote runs to the
closing quote, through delimiters and line ends, and a quote inside it is
written twice; text after the closing quote still belongs to the field. A
line ends with a line feed, a carriage return or both; empty lines are no
records, and an open quote runs to the end of the text.

Every field is trimmed, and a byte-order mark before the first record is
dropped.
-/

namespace Scenario.Csv

open Scenario.Text

/-- Where the reader stands. -/
inductive Place
  | startRecord
  | startField
  | inField
  | inQuotes
  /-- After a quote inside quotes: it closes them unless another follows. -/
  | afterQuote
  deriving Repr, DecidableEq

/-- What has been read, the latest first. -/
structure Reading where
  place : Place := .startRecord
  field : List Char := []
  fields : List (List Char) := []
  records : List (List (List Char)) := []

def endsLine (c : Char) : Bool :=
  c == '\n' || c == '\r'

namespace Reading

def endField (r : Reading) : Reading :=
  { r with place := .startField, field := [], fields := r.field.reverse :: r.fields }

def endRecord (r : Reading) : Reading :=
  { place := .startRecord
    records := (r.field.reverse :: r.fields).reverse :: r.records }

def push (r : Reading) (place : Place) (c : Char) : Reading :=
  { r with place, field := c :: r.field }

/-- A character outside quotes. -/
def unquoted (delimiter : Char) (r : Reading) (c : Char) : Reading :=
  if c = delimiter then r.endField else if endsLine c then r.endRecord else r.push .inField c

/-- A character where a field starts. -/
def fieldStart (delimiter : Char) (r : Reading) (c : Char) : Reading :=
  if c = '"' then { r with place := .inQuotes } else r.unquoted delimiter c

def step (delimiter : Char) (r : Reading) (c : Char) : Reading :=
  match r.place with
  | .startRecord => if endsLine c then r else r.fieldStart delimiter c
  | .startField => r.fieldStart delimiter c
  | .inField => r.unquoted delimiter c
  | .inQuotes => if c = '"' then { r with place := .afterQuote } else r.push .inQuotes c
  | .afterQuote => if c = '"' then r.push .inQuotes c else r.unquoted delimiter c

/-- The records read, the last one ended by the end of the text. -/
def finish (r : Reading) : List (List (List Char)) :=
  match r.place with
  | .startRecord => r.records.reverse
  | _ => r.endRecord.records.reverse

end Reading

/-- The text without a byte-order mark at its start. -/
def withoutMark : List Char → List Char
  | c :: cs => if c.toNat = 0xfeff then cs else c :: cs
  | [] => []

/-- The records of a text, field by field. -/
def records (delimiter : Char) (text : String) : List (List String) :=
  ((withoutMark text.toList).foldl (Reading.step delimiter) {}).finish.map
    (List.map fun field => String.ofList (trim field))

end Scenario.Csv
