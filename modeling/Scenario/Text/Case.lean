import Scenario.Text.Ascii
import Scenario.Text.CaseTable

/-!
# Lower case

The lower-case form of a text by the full mapping of Unicode 17. One
character becomes one, with two exceptions: the dotted capital I becomes two
characters, and a capital sigma at the end of a word becomes the final
form. A sigma ends a word if a cased letter comes before it and none
after it, looking through case-ignorable characters on both sides.
-/

namespace Scenario.Text

/-- The lower-case form of a character that does not look at its context. -/
def lowerChar (c : Char) : List Char :=
  if c.toNat < 0x80 then
    [lowerAscii c]
  else if c.toNat = 0x130 then
    ['i', Char.ofNat 0x307]
  else
    match Shift.find? lowerShifts c.toNat with
    | some delta => [Char.ofNat (c.toNat + delta).toNat]
    | none => [c]

def isCased (c : Char) : Bool :=
  inRanges casedRanges c.toNat

def isCaseIgnorable (c : Char) : Bool :=
  inRanges caseIgnorableRanges c.toNat

/-- Whether the first character that is not case-ignorable is cased. -/
def startsCased (cs : List Char) : Bool :=
  match cs.dropWhile isCaseIgnorable with
  | [] => false
  | c :: _ => isCased c

/-- Lowers a text whose part before, read backwards, is `before`. -/
def lowerAfter (before : List Char) : List Char → List Char
  | [] => []
  | c :: cs =>
    let lowered :=
      if c.toNat = 0x3a3 then
        if startsCased before && !startsCased cs then [Char.ofNat 0x3c2] else [Char.ofNat 0x3c3]
      else
        lowerChar c
    lowered ++ lowerAfter (c :: before) cs

/-- The lower-case form of a text. -/
def lower (cs : List Char) : List Char :=
  lowerAfter [] cs

/-- `lower` on strings. -/
def lowered (s : String) : String :=
  String.ofList (lower s.toList)

end Scenario.Text
