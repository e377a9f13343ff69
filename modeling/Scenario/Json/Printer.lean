import Scenario.Json.Basic

/-!
# Compact JSON text

Values without blanks. Strings escape the quote, the backslash and the
characters below the space, the latter by letters where JSON has them and
by four hexadecimal digits otherwise; all other characters stand as they
are.
-/

namespace Scenario.Json

/-- One character inside a string literal. -/
def escape (c : Char) : List Char :=
  match c with
  | '"' => ['\\', '"']
  | '\\' => ['\\', '\\']
  | '\x08' => ['\\', 'b']
  | '\x0c' => ['\\', 'f']
  | '\n' => ['\\', 'n']
  | '\r' => ['\\', 'r']
  | '\t' => ['\\', 't']
  | _ =>
    if c.toNat < 0x20 then
      ['\\', 'u', '0', '0', Nat.digitChar (c.toNat / 16), Nat.digitChar (c.toNat % 16)]
    else
      [c]

/-- A string literal. -/
def literal (s : String) : List Char :=
  '"' :: s.toList.flatMap escape ++ ['"']

mutual

/-- The compact text of a value. -/
def chars : Json → List Char
  | .null => ['n', 'u', 'l', 'l']
  | .bool true => ['t', 'r', 'u', 'e']
  | .bool false => ['f', 'a', 'l', 's', 'e']
  | .number n => n.text
  | .string s => literal s
  | .array items => '[' :: itemChars items ++ [']']
  | .object fields => '\x7b' :: fieldChars fields ++ ['\x7d']

/-- Items with commas between them. -/
def itemChars : List Json → List Char
  | [] => []
  | [v] => v.chars
  | v :: w :: vs => v.chars ++ ',' :: itemChars (w :: vs)

/-- Named fields with commas between them. -/
def fieldChars : List (String × Json) → List Char
  | [] => []
  | [(name, v)] => literal name ++ ':' :: v.chars
  | (name, v) :: w :: vs => literal name ++ ':' :: v.chars ++ ',' :: fieldChars (w :: vs)

end

/-- The compact text of a value as a string. -/
def compact (v : Json) : String :=
  String.ofList v.chars

/-- A value as it appears inside a text: a string stands without quotes,
every other value as its compact text. -/
def display : Json → String
  | .string s => s
  | v => v.compact

@[simp] theorem display_string (s : String) : display (.string s) = s :=
  rfl

end Scenario.Json
