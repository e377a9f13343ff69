import Scenario.Text.CaseTable
import Scenario.Text.PrintableTable

/-!
# Quoted text

A text between double quotes, as messages show it: a quote and a
backslash are escaped, tab, line feed, carriage return and the null
character have letters, and every other character without a printable
form is shown by its code in hexadecimal. Single quotes stand as they
are.
-/

namespace Scenario.Text

/-- Whether a character is shown by its code. -/
def isHidden (c : Char) : Bool :=
  if c.toNat < 0x7f then c.toNat < 0x20 else inRanges hiddenRanges c.toNat

/-- One character inside quotes. -/
def quoteChar (c : Char) : List Char :=
  match c with
  | '"' => ['\\', '"']
  | '\\' => ['\\', '\\']
  | '\t' => ['\\', 't']
  | '\n' => ['\\', 'n']
  | '\r' => ['\\', 'r']
  | '\x00' => ['\\', '0']
  | _ =>
    if isHidden c then
      ['\\', 'u', '\x7b'] ++ Nat.toDigits 16 c.toNat ++ ['\x7d']
    else
      [c]

/-- A text between double quotes. -/
def quoted (s : String) : String :=
  String.ofList ('"' :: s.toList.flatMap quoteChar ++ ['"'])

end Scenario.Text
