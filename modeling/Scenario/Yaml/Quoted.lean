import Scenario.Yaml.Gap

/-!
# Quoted scalars

Within single quotes only the quote itself is special, and written twice.
Within double quotes a backslash starts an escape; one at the end of a line
joins the next line without a space. Both kinds fold lines as plain scalars
do, and end at their quote; no document ends inside them.
-/

namespace Scenario.Yaml

inductive QuoteKind
  | single
  | double
  deriving Repr, DecidableEq

/-- Where in the text the reader is. -/
inductive QuoteMode
  | text
  /-- Behind a backslash. -/
  | escape
  /-- In a code of so many more digits, behind those that make `value`. -/
  | code (more value : Nat)

/-- The character of an escape of one letter. -/
def escaped? (c : Char) : Option Char :=
  match c with
  | '0' => some '\x00'
  | 'a' => some '\x07'
  | 'b' => some '\x08'
  | 't' => some '\t'
  | '\t' => some '\t'
  | 'n' => some '\n'
  | 'v' => some '\x0b'
  | 'f' => some '\x0c'
  | 'r' => some '\r'
  | 'e' => some '\x1b'
  | ' ' => some ' '
  | '"' => some '"'
  | '/' => some '/'
  | '\\' => some '\\'
  | 'N' => some '\u0085'
  | '_' => some '\u00a0'
  | 'L' => some '\u2028'
  | 'P' => some '\u2029'
  | _ => none

/-- How many digits follow the letter of a code. -/
def codeLength? (c : Char) : Option Nat :=
  match c with
  | 'x' => some 2
  | 'u' => some 4
  | 'U' => some 8
  | _ => none

/-- The character of a code. -/
def charOfCode? (n : Nat) : Option Char :=
  if n.isValidChar then some (Char.ofNat n) else none

/-- Reads on behind the characters `done`, the last first, and a gap; gives
the text and what follows the closing quote. -/
def quotedFrom? (kind : QuoteKind) : QuoteMode → (done : List Char) → Gap → List Spot →
    Option (String × List Spot)
  | _, _, _, [] => none
  | .text, done, gap, s :: rest =>
    if s.isSpace || s.isBreak then quotedFrom? kind .text done (gap.pass s.char) rest
    else if atMarker (s :: rest) then none
    else
      let done := gap.close done
      match kind with
      | .single =>
        if s.char = '\x27' then
          match rest with
          | t :: more =>
            if t.char = '\x27' then quotedFrom? kind .text ('\x27' :: done) .nothing more
            else some (String.ofList done.reverse, rest)
          | [] => some (String.ofList done.reverse, [])
        else quotedFrom? kind .text (s.char :: done) .nothing rest
      | .double =>
        if s.char = '\x22' then some (String.ofList done.reverse, rest)
        else if s.char = '\\' then quotedFrom? kind .escape done .nothing rest
        else quotedFrom? kind .text (s.char :: done) .nothing rest
  | .escape, done, gap, s :: rest =>
    if s.isBreak then quotedFrom? kind .text done (.breaks none []) rest
    else
      match escaped? s.char, codeLength? s.char with
      | some c, _ => quotedFrom? kind .text (c :: done) gap rest
      | none, some more => quotedFrom? kind (.code more 0) done gap rest
      | none, none => none
  | .code more value, done, gap, s :: rest =>
    match Text.hexDigit? s.char with
    | none => none
    | some d =>
      if more ≤ 1 then
        match charOfCode? (16 * value + d) with
        | some c => quotedFrom? kind .text (c :: done) gap rest
        | none => none
      else quotedFrom? kind (.code (more - 1) (16 * value + d)) done gap rest

/-- The text of a quoted scalar behind its opening quote. -/
def quoted? (kind : QuoteKind) (spots : List Spot) : Option (String × List Spot) :=
  quotedFrom? kind .text [] .nothing spots

end Scenario.Yaml
