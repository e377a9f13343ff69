import Scenario.Json.Printer
import Scenario.Table.Csv

/-!
# Tables

A table has a row of headers and rows of values. It is loaded from
comma-separated text or from a value of one of several shapes:

- `headers` with `records` (or `rows`), each an array;
- an array of arrays, the first of which is the header row;
- an array of objects, whose fields are the columns in order of their
  first appearance;
- an object with such an array under `rows` (or `records`), or with text
  under `content`.

A row may be shorter than the header row; what is missing is null.
-/

namespace Scenario

structure Table where
  headers : List String
  rows : List (List Json)
  deriving Repr, BEq

/-- Why a value is no table. -/
inductive TableError
  | recordsNotArray (kind : String)
  | unknownShape
  | unsupported (kind : String)
  | wideDelimiter (c : Char)
  | rowNotObject (kind : String)
  | rowOfKind (kind : String)
  | recordOfKind (kind : String)
  deriving Repr, DecidableEq

def TableError.message : TableError → String
  | recordsNotArray kind => s!"records must be an array, got {kind}"
  | unknownShape => "object data needs 'content', 'headers' with 'records', or 'rows'"
  | unsupported kind => s!"unsupported data of type {kind}"
  | wideDelimiter c => s!"delimiter '{c}' is not a single-byte character"
  | rowNotObject kind => s!"expected every row to be an object, found {kind}"
  | rowOfKind kind => s!"rows must be objects or arrays, found {kind}"
  | recordOfKind kind => s!"expected an array record, found {kind}"

namespace Table

/-- The table of a text; the first record is the header row. -/
def ofText (text : String) (delimiter : Option Char) : Except TableError Table :=
  let delimiter := delimiter.getD ','
  if 0x80 ≤ delimiter.toNat then .error (.wideDelimiter delimiter)
  else
    match Csv.records delimiter text with
    | [] => .ok ⟨[], []⟩
    | headers :: rows => .ok ⟨headers, rows.map (List.map Json.string)⟩

/-- The values of an array record. -/
def record : Json → Except TableError (List Json)
  | .array values => .ok values
  | other => .error (.recordOfKind other.kind)

def ofRecords (headers : List Json) (records : List Json) : Except TableError Table := do
  return ⟨headers.map Json.display, ← records.mapM record⟩

/-- The fields of an object row. -/
def rowFields : Json → Except TableError (List (String × Json))
  | .object fields => .ok fields
  | other => .error (.rowNotObject other.kind)

/-- Adds the names that are not there yet. -/
def addNames (names : List String) (fields : List (String × Json)) : List String :=
  fields.foldl (fun names (name, _) => if name ∈ names then names else names ++ [name]) names

def ofObjects (items : List Json) : Except TableError Table := do
  let rows ← items.mapM rowFields
  let headers := rows.foldl addNames []
  return ⟨headers, rows.map fun fields => headers.map fun h => (Json.field? h fields).getD .null⟩

/-- The table of an array. -/
def ofItems : List Json → Except TableError Table
  | [] => .ok ⟨[], []⟩
  | .array headers :: records => ofRecords headers records
  | .object fields :: rest => ofObjects (.object fields :: rest)
  | other :: _ => .error (.rowOfKind other.kind)

/-- The table of an object. -/
def ofFields (fields : List (String × Json)) (delimiter : Option Char) :
    Except TableError Table :=
  let get (name : String) := Json.field? name fields
  match get "content", get "headers" with
  | some (.string text), _ => ofText text delimiter
  | _, some (.array headers) =>
    match (get "records").or (get "rows") with
    | some (.array records) => ofRecords headers records
    | some other => .error (.recordsNotArray other.kind)
    | none => ofRecords headers []
  | _, _ =>
    match (get "rows").or (get "records") with
    | some (.array items) => ofItems items
    | _ => .error .unknownShape

/-- Loads a table. -/
def load (data : Json) (delimiter : Option Char) : Except TableError Table :=
  match data with
  | .string text => ofText text delimiter
  | .array items => ofItems items
  | .object fields => ofFields fields delimiter
  | other => .error (.unsupported other.kind)

end Table

end Scenario
