import Scenario.Condition
import Scenario.Table.Basic
import Scenario.TestCase

/-!
# Selecting from tables

At most one selection applies: a row (or one cell of it), else a column,
else a filter, else every row. Rows are given as objects with the headers
as names of fields.

A filter is one comparison of a column with a text. Equality compares
numbers if both sides are numbers, so `1` equals `1.0`.
-/

namespace Scenario

open Scenario.Text

inductive SelectionError
  | unknownColumn (column : String) (headers : List String)
  | rowOutOfRange (row count : Nat)
  | malformedFilter (filter : String)
  deriving Repr, DecidableEq

def SelectionError.message : SelectionError → String
  | unknownColumn column headers =>
    "column '" ++ column ++ "' not found (available: " ++ String.intercalate ", " headers ++ ")"
  | rowOutOfRange row count => s!"row {row} out of range ({count} row(s))"
  | malformedFilter filter => s!"filter '{filter}' must look like 'column op value'"

/-- A comparison of a column with a text. -/
structure Filter where
  column : String
  op : Operator
  value : String
  deriving Repr, DecidableEq

namespace Filter

/-- Reads `column op value`; quotes around the value are dropped. -/
def parse (text : String) : Except SelectionError Filter :=
  match Operator.split? (trim text.toList) with
  | none => .error (.malformedFilter text)
  | some (op, left, right) =>
    let column := trim left
    let value := trimWhere (fun c => c == '"' || c == '\'') (trim right)
    if column.isEmpty then .error (.malformedFilter text)
    else .ok ⟨String.ofList column, op, String.ofList value⟩

/-- Whether a cell satisfies the comparison. -/
def accepts (f : Filter) (cell : Json) : Bool :=
  let text := cell.display
  match Double.read? text.toList, Double.read? f.value.toList with
  | some x, some y =>
    match f.op with
    | .equal => x.equals y
    | .notEqual => !x.equals y
    | op => op.apply text f.value
  | _, _ => f.op.apply text f.value

end Filter

namespace Table

/-- The place of a column. -/
def columnIndex (t : Table) (column : String) : Except SelectionError Nat :=
  match t.headers.findIdx? (· == column) with
  | some i => .ok i
  | none => .error (.unknownColumn column t.headers)

/-- A value of a row; null if the row is too short. -/
def cellOf (row : List Json) (index : Nat) : Json :=
  row[index]?.getD .null

/-- A row as an object. -/
def rowObject (t : Table) (row : List Json) : Json :=
  .ofFields (t.headers.zipIdx.map fun (header, i) => (header, cellOf row i))

/-- What an extraction takes from a table. -/
def select (t : Table) (spec : Extraction) : Except SelectionError Json :=
  match spec.row, spec.column, spec.filter with
  | some index, column, _ =>
    match t.rows[index]? with
    | none => .error (.rowOutOfRange index t.rows.length)
    | some row =>
      match column with
      | some column => do return cellOf row (← t.columnIndex column)
      | none => .ok (t.rowObject row)
  | none, some column, _ => do
    let i ← t.columnIndex column
    return .array (t.rows.map fun row => cellOf row i)
  | none, none, some text => do
    let filter ← Filter.parse text
    let i ← t.columnIndex filter.column
    return .array ((t.rows.filter fun row => filter.accepts (cellOf row i)).map t.rowObject)
  | none, none, none => .ok (.array (t.rows.map t.rowObject))

end Table

end Scenario
