import Scenario.Json.Basic

/-!
# Reading JSON text

The text is cut into tokens, and a machine with a stack of open
containers reads the tokens one by one. Nothing but blanks may follow the
value. Containers nest at most 127 deep; of a field written twice the last
counts.

Only whether a text is JSON matters to the callers, so a refusal carries
no position.
-/

namespace Scenario.Json

open Scenario.Text

inductive Token
  | openArray
  | closeArray
  | openObject
  | closeObject
  | comma
  | colon
  | string (s : String)
  | plain (v : Json)

def isJsonBlank (c : Char) : Bool :=
  c == ' ' || c == '\t' || c == '\n' || c == '\r'

/-- Characters of numbers and of the words `null`, `true` and `false`. -/
def isWordChar (c : Char) : Bool :=
  isDigit c || isLetter c || c == '-' || c == '+' || c == '.'

def punctuation? (c : Char) : Option Token :=
  match c with
  | '[' => some .openArray
  | ']' => some .closeArray
  | '\x7b' => some .openObject
  | '\x7d' => some .closeObject
  | ',' => some .comma
  | ':' => some .colon
  | _ => none

/-- The value of a word without quotes. -/
def word? (cs : List Char) : Option Json :=
  if cs = ['n', 'u', 'l', 'l'] then some .null
  else if cs = ['t', 'r', 'u', 'e'] then some (.bool true)
  else if cs = ['f', 'a', 'l', 's', 'e'] then some (.bool false)
  else (Number.read? cs).map .number

/-- The value of four hexadecimal digits. -/
def fourDigits? (a b c d : Char) : Option Nat :=
  digitsIn? 16 0 [a, b, c, d]

/-- Letters of one-character escapes. -/
def shortEscape? (c : Char) : Option Char :=
  match c with
  | '"' => some '"'
  | '\\' => some '\\'
  | '/' => some '/'
  | 'b' => some '\x08'
  | 'f' => some '\x0c'
  | 'n' => some '\n'
  | 'r' => some '\r'
  | 't' => some '\t'
  | _ => none

/-- The character of a pair of surrogates. -/
def surrogatePair (high low : Nat) : Char :=
  Char.ofNat (0x10000 + (high - 0xd800) * 0x400 + (low - 0xdc00))

/-- The content of a string literal and what follows its closing quote.
Characters below the space must be escaped, and surrogates come in pairs. -/
def stringBody? (done : List Char) : List Char → Option (List Char × List Char)
  | [] => none
  | '"' :: rest => some (done.reverse, rest)
  | '\\' :: 'u' :: a :: b :: c :: d :: rest =>
    match fourDigits? a b c d with
    | none => none
    | some n =>
      if 0xd800 ≤ n ∧ n < 0xdc00 then
        match rest with
        | '\\' :: 'u' :: e :: f :: g :: h :: rest =>
          match fourDigits? e f g h with
          | none => none
          | some m =>
            if 0xdc00 ≤ m ∧ m < 0xe000 then stringBody? (surrogatePair n m :: done) rest else none
        | _ => none
      else if 0xdc00 ≤ n ∧ n < 0xe000 then none
      else stringBody? (Char.ofNat n :: done) rest
  | '\\' :: c :: rest =>
    match shortEscape? c with
    | some e => stringBody? (e :: done) rest
    | none => none
  | c :: rest => if c.toNat < 0x20 ∨ c = '\\' then none else stringBody? (c :: done) rest

theorem stringBody?_length {done cs s rest : List Char}
    (h : stringBody? done cs = some (s, rest)) : rest.length < cs.length := by
  fun_induction stringBody? done cs <;> simp_all <;> omega

theorem dropWhile_length_le (p : Char → Bool) (cs : List Char) :
    (cs.dropWhile p).length ≤ cs.length := by
  induction cs with
  | nil => simp
  | cons c cs ih =>
      rw [List.dropWhile_cons]
      split
      · simp only [List.length_cons]; omega
      · exact Nat.le_refl _

/-- Cuts a text into tokens. -/
def tokens? : List Char → Option (List Token)
  | [] => some []
  | c :: cs =>
    if isJsonBlank c then tokens? cs
    else
      match punctuation? c with
      | some t => (tokens? cs).map (t :: ·)
      | none =>
        if c = '"' then
          match _h : stringBody? [] cs with
          | some (s, rest) => (tokens? rest).map (.string (String.ofList s) :: ·)
          | none => none
        else if isWordChar c then
          match word? (c :: cs.takeWhile isWordChar) with
          | some v => (tokens? (cs.dropWhile isWordChar)).map (.plain v :: ·)
          | none => none
        else none
termination_by cs => cs.length
decreasing_by
  · simp
  · simp
  · have := stringBody?_length (by assumption)
    simp only [List.length_cons]; omega
  · have := dropWhile_length_le isWordChar cs
    simp only [List.length_cons]; omega

/-! ## The machine -/

/-- A container that is still open: the items before (last first), the
fields before, or the fields before and the name of the one being read. -/
inductive Frame
  | items (before : List Json)
  | fields (before : List (String × Json))
  | field (before : List (String × Json)) (name : String)

/-- What the next token may be. -/
inductive Expect
  | value
  | firstItem
  | firstName
  | name
  | colon
  | next
  | nothing (result : Json)

structure Reading where
  stack : List Frame
  expect : Expect

/-- Hands a finished value to the innermost open container. -/
def finish (v : Json) : List Frame → Option Reading
  | [] => some ⟨[], .nothing v⟩
  | .items before :: rest => some ⟨.items (v :: before) :: rest, .next⟩
  | .field before name :: rest => some ⟨.fields (setField name v before) :: rest, .next⟩
  | .fields _ :: _ => none

/-- How many containers may be open. -/
def maxDepth : Nat := 127

def openFrame (frame : Frame) (expect : Expect) (stack : List Frame) : Option Reading :=
  if stack.length < maxDepth then some ⟨frame :: stack, expect⟩ else none

/-- Starts or completes a value. -/
def startValue (stack : List Frame) : Token → Option Reading
  | .openArray => openFrame (.items []) .firstItem stack
  | .openObject => openFrame (.fields []) .firstName stack
  | .string s => finish (.string s) stack
  | .plain v => finish v stack
  | _ => none

/-- Closes the innermost container. -/
def closeFrame : List Frame → Token → Option Reading
  | .items before :: rest, .closeArray => finish (.array before.reverse) rest
  | .fields before :: rest, .closeObject => finish (.object before) rest
  | _, _ => none

/-- Names the field that the innermost object reads next. -/
def nameField : List Frame → Token → Option Reading
  | .fields before :: rest, .string s => some ⟨.field before s :: rest, .colon⟩
  | _, _ => none

def step (r : Reading) (t : Token) : Option Reading :=
  match r.expect, t with
  | .value, t => startValue r.stack t
  | .firstItem, .closeArray => closeFrame r.stack .closeArray
  | .firstItem, t => startValue r.stack t
  | .firstName, .closeObject => closeFrame r.stack .closeObject
  | .firstName, t => nameField r.stack t
  | .name, t => nameField r.stack t
  | .colon, .colon => some { r with expect := .value }
  | .next, .comma =>
    match r.stack with
    | .items _ :: _ => some { r with expect := .value }
    | .fields _ :: _ => some { r with expect := .name }
    | _ => none
  | .next, t => closeFrame r.stack t
  | _, _ => none

/-- The value written by all of the text. -/
def read? (cs : List Char) : Option Json := do
  let r ← (← tokens? cs).foldlM step ⟨[], .value⟩
  match r.expect with
  | .nothing v => some v
  | _ => none

/-- `read?` on strings. -/
def parse? (s : String) : Option Json :=
  read? s.toList

end Scenario.Json
