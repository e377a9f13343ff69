import Scenario.Json.Printer

/-!
# Indented JSON text

Every item and every field has a line of its own, indented by two spaces
for each container around it. Empty containers stay on one line.
-/

namespace Scenario.Json

/-- A new line inside so many containers. -/
def newLine (depth : Nat) : List Char :=
  '\n' :: List.replicate (2 * depth) ' '

mutual

/-- The text of a value inside so many containers. -/
def indentedChars (depth : Nat) : Json → List Char
  | .array (v :: vs) =>
    '[' :: newLine (depth + 1) ++ v.indentedChars (depth + 1) ++
      indentedItems (depth + 1) vs ++ newLine depth ++ [']']
  | .object ((name, v) :: fields) =>
    '\x7b' :: newLine (depth + 1) ++ literal name ++ ':' :: ' ' :: v.indentedChars (depth + 1) ++
      indentedFields (depth + 1) fields ++ newLine depth ++ ['\x7d']
  | .array [] => ['[', ']']
  | .object [] => ['\x7b', '\x7d']
  | .null => chars .null
  | .bool b => chars (.bool b)
  | .number n => n.text
  | .string s => literal s

/-- The items behind the first. -/
def indentedItems (depth : Nat) : List Json → List Char
  | [] => []
  | v :: vs => ',' :: newLine depth ++ v.indentedChars depth ++ indentedItems depth vs

/-- The fields behind the first. -/
def indentedFields (depth : Nat) : List (String × Json) → List Char
  | [] => []
  | (name, v) :: fields =>
    ',' :: newLine depth ++ literal name ++ ':' :: ' ' :: v.indentedChars depth ++
      indentedFields depth fields

end

/-- The indented text of a value. -/
def indented (v : Json) : String :=
  String.ofList (v.indentedChars 0)

end Scenario.Json
