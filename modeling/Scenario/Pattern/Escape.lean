import Scenario.Pattern.Syntax
import Scenario.Text.Ascii

/-!
# Flags and escapes of patterns

Flags change the meaning of what follows them up to the end of the group.
An escape is a backslash and what it stands for: a character, a set of
characters or an assertion. A backslash may stand before any ASCII
character that is neither a letter nor a digit; of the letters and digits
only those listed here have a meaning.
-/

namespace Scenario

open Scenario.Text

/-- The flags in force. -/
structure Flags where
  ignoreCase : Bool := false
  multiLine : Bool := false
  dotAll : Bool := false
  swapGreed : Bool := false
  crlf : Bool := false
  unicode : Bool := true
  verbose : Bool := false
  deriving Repr, DecidableEq

namespace Flags

/-- Sets the flag of a letter. -/
def set? (f : Flags) (letter : Char) (value : Bool) : Option Flags :=
  match letter with
  | 'i' => some { f with ignoreCase := value }
  | 'm' => some { f with multiLine := value }
  | 's' => some { f with dotAll := value }
  | 'U' => some { f with swapGreed := value }
  | 'R' => some { f with crlf := value }
  | 'u' => some { f with unicode := value }
  | 'x' => some { f with verbose := value }
  | _ => none

/-- Reads flags up to a colon or a closing parenthesis: letters, and once a
minus sign after which they are cleared. Gives the flags and what follows
the last one. -/
def read? (f : Flags) (seen : List Char) (clear : Bool) : List Char → Option (Flags × List Char)
  | [] => none
  | c :: rest =>
    if c = ':' ∨ c = ')' then
      if seen.head? = some '-' then none else some (f, c :: rest)
    else if c = '-' then
      if clear then none else read? f ('-' :: seen) true rest
    else if c ∈ seen then none
    else
      match f.set? c (!clear) with
      | some f => read? f (c :: seen) clear rest
      | none => none

/-- Drops a comment up to its line feed. -/
def skipBlank (cs : List Char) : List Char :=
  match cs with
  | [] => []
  | c :: rest =>
    if isBlank c then skipBlank rest
    else if c = '#' then skipComment rest
    else c :: rest
where
  skipComment : List Char → List Char
    | [] => []
    | c :: rest => if c = '\n' then skipBlank rest else skipComment rest

/-- In verbose patterns white space and comments mean nothing. -/
def skip (f : Flags) (cs : List Char) : List Char :=
  if f.verbose then skipBlank cs else cs

/-- A set of characters under the flags; without Unicode it must be
ASCII. -/
def cased? (f : Flags) (s : CharSet) : Option CharSet :=
  if f.unicode then some (if f.ignoreCase then s.fold else s)
  else if s.ranges.all fun r => r.2 < 0x80 then some (if f.ignoreCase then s.foldAscii else s)
  else none

/-- The complement of a set; without Unicode there is none. -/
def complement? (f : Flags) (s : CharSet) : Option CharSet :=
  if f.unicode then some s.complement else none

end Flags

/-- What an escape stands for. The sets named by a property (`\p`) are left
out. -/
inductive Escaped
  | char (c : Char)
  | set (s : CharSet)
  | assertion (a : Assertion)

namespace Escaped

/-- A character by its code, if there is one. -/
def ofCode? (n : Nat) : Option Char :=
  if n < 0xd800 ∨ (0xe000 ≤ n ∧ n < 0x110000) then some (Char.ofNat n) else none

/-- Hexadecimal digits in braces, or exactly `count` of them. -/
def hex? (count : Nat) (cs : List Char) : Option (Char × List Char) :=
  match cs with
  | '\x7b' :: rest =>
    let digits := rest.takeWhile (· != '\x7d')
    match rest.dropWhile (· != '\x7d') with
    | [] => none
    | _ :: after =>
      if digits.isEmpty then none
      else do return (← ofCode? (← digitsIn? 16 0 digits), after)
  | _ =>
    let digits := cs.take count
    if digits.length < count then none
    else do return (← ofCode? (← digitsIn? 16 0 digits), cs.drop count)

/-- The letters of a named boundary. -/
def isBoundaryLetter (c : Char) : Bool :=
  isLetter c || c == '-'

/-- The assertion after `\b`, which may be named in braces. -/
def boundary? (f : Flags) (cs : List Char) : Option (Escaped × List Char) :=
  let ascii := !f.unicode
  let plain : Option (Escaped × List Char) := some (.assertion (.wordBoundary ascii), cs)
  match cs with
  | '\x7b' :: inside =>
    match f.skip inside with
    | [] => none
    | c :: _ =>
      if !isBoundaryLetter c then plain
      else
        let inside := f.skip inside
        match inside.dropWhile isBoundaryLetter with
        | '\x7d' :: after =>
          match String.ofList (inside.takeWhile isBoundaryLetter) with
          | "start" => some (.assertion (.wordStart ascii), after)
          | "end" => some (.assertion (.wordEnd ascii), after)
          | "start-half" => some (.assertion (.wordStartHalf ascii), after)
          | "end-half" => some (.assertion (.wordEndHalf ascii), after)
          | _ => none
        | _ => none
  | _ => plain

/-- A set by its letter, or the complement by the capital letter. -/
def perl? (f : Flags) (c : Char) : Option CharSet :=
  let choose (unicode ascii : CharSet) : CharSet := if f.unicode then unicode else ascii
  match c with
  | 'd' => some (choose .digits .asciiDigits)
  | 's' => some (choose .blank .asciiBlank)
  | 'w' => some (choose .word .asciiWord)
  | 'D' => f.complement? (choose .digits .asciiDigits)
  | 'S' => f.complement? (choose .blank .asciiBlank)
  | 'W' => f.complement? (choose .word .asciiWord)
  | _ => none

/-- Whether a backslash before the character only takes it literally. -/
def isQuotable (c : Char) : Bool :=
  c.toNat < 0x80 && !isLetter c && !isDigit c && c != '<' && c != '>'

/-- Reads what follows a backslash. -/
def read? (f : Flags) : List Char → Option (Escaped × List Char)
  | [] => none
  | c :: rest =>
    let ascii := !f.unicode
    match c with
    | 'x' => (hex? 2 rest).map fun (c, after) => (.char c, after)
    | 'u' => (hex? 4 rest).map fun (c, after) => (.char c, after)
    | 'U' => (hex? 8 rest).map fun (c, after) => (.char c, after)
    | 'a' => some (.char '\x07', rest)
    | 'f' => some (.char '\x0c', rest)
    | 't' => some (.char '\t', rest)
    | 'n' => some (.char '\n', rest)
    | 'r' => some (.char '\r', rest)
    | 'v' => some (.char '\x0b', rest)
    | 'A' => some (.assertion .textStart, rest)
    | 'z' => some (.assertion .textEnd, rest)
    | 'B' => some (.assertion (.notWordBoundary ascii), rest)
    | '<' => some (.assertion (.wordStart ascii), rest)
    | '>' => some (.assertion (.wordEnd ascii), rest)
    | 'b' => boundary? f rest
    | _ =>
      match perl? f c with
      | some s => some (.set s, rest)
      | none => if isQuotable c then some (.char c, rest) else none

end Escaped

end Scenario
