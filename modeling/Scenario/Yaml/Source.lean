import Scenario.Text.Ascii

/-!
# The characters of a document

A document is read as a list of characters, each with its place. Line
breaks are made one character each, so that later readers see lines and
columns and never a carriage return.

`ofText?` refuses characters that no document may hold.
-/

namespace Scenario.Yaml

/-! ## Classes of characters -/

def isSpace (c : Char) : Bool :=
  c == ' ' || c == '\t'

/-- Characters that end a line. -/
def isBreak (c : Char) : Bool :=
  c == '\n' || c == '\r' || c == '\u0085' || c == '\u2028' || c == '\u2029'

/-- Whether a document may hold the character at all. -/
def isAllowed (c : Char) : Bool :=
  let n := c.toNat
  n == 0x09 || n == 0x0a || n == 0x0d || (0x20 ≤ n && n ≤ 0x7e) || n == 0x85 ||
    (0xa0 ≤ n && n ≤ 0xd7ff) || (0xe000 ≤ n && n ≤ 0xfffd) || 0x10000 ≤ n

/-- Characters of names of anchors, directives and tag handles. -/
def isNameChar (c : Char) : Bool :=
  Text.isDigit c || Text.isLetter c || c == '_' || c == '-'

def byteOrderMark : Char := '\ufeff'

/-! ## Places -/

/-- A character and where it stands. -/
structure Spot where
  char : Char
  /-- How many characters are before it. -/
  index : Nat
  line : Nat
  column : Nat
  deriving Repr, DecidableEq

/-- The characters of a text; the two that end a line together count as
one, and a separator of lines or paragraphs stays what it is. -/
def placeFrom (index line column : Nat) : List Char → List Spot
  | [] => []
  | '\r' :: '\n' :: cs => ⟨'\n', index, line, column⟩ :: placeFrom (index + 2) (line + 1) 0 cs
  | c :: cs =>
    if isBreak c then
      let shown := if c = '\u2028' ∨ c = '\u2029' then c else '\n'
      ⟨shown, index, line, column⟩ :: placeFrom (index + 1) (line + 1) 0 cs
    else
      ⟨c, index, line, column⟩ :: placeFrom (index + 1) line (column + 1) cs

/-- The characters of a document, without a byte order mark before them. -/
def ofText? (text : String) : Option (List Spot) :=
  let cs :=
    match text.toList with
    | c :: cs => if c = byteOrderMark then cs else c :: cs
    | [] => []
  if cs.all isAllowed then some (placeFrom 0 0 0 cs) else none

/-! ## Looking ahead -/

namespace Spot

def isSpace (s : Spot) : Bool :=
  Yaml.isSpace s.char

def isBreak (s : Spot) : Bool :=
  Yaml.isBreak s.char

end Spot

/-- Whether the text ends here, or a space or a break follows. -/
def atGap : List Spot → Bool
  | [] => true
  | s :: _ => s.isSpace || s.isBreak

/-- Whether the next character is this one. -/
def atChar (c : Char) : List Spot → Bool
  | [] => false
  | s :: _ => s.char == c

/-- Three marks at the start of a line, with a gap after them. -/
def isMarkerOf (mark : Char) : List Spot → Bool
  | a :: b :: c :: rest =>
    a.column == 0 && a.char == mark && b.char == mark && c.char == mark && atGap rest
  | _ => false

/-- Whether a document starts or ends here. -/
def atMarker (spots : List Spot) : Bool :=
  isMarkerOf '-' spots || isMarkerOf '.' spots

/-- The characters before the first that fails, and the rest. -/
def takeChars (p : Char → Bool) (spots : List Spot) : List Char × List Spot :=
  ((spots.takeWhile fun s => p s.char).map Spot.char, spots.dropWhile fun s => p s.char)

/-- What follows the spaces. -/
def dropSpaces (spots : List Spot) : List Spot :=
  spots.dropWhile Spot.isSpace

/-- What follows the rest of the line, which may only hold spaces and a
comment. -/
def closeLine? (spots : List Spot) : Option (List Spot) :=
  let spots := dropSpaces spots
  let spots := if atChar '#' spots then spots.dropWhile (!·.isBreak) else spots
  match spots with
  | [] => some []
  | s :: rest => if s.isBreak then some rest else none

end Scenario.Yaml
