import Scenario.Store.Substitution

/-!
# What a `for` loop runs over

A loop runs over a range of integers `start..end` with both ends, over a
list of values, or a number of times. The text may be a single reference:
an array then gives its items with their kinds, and a string or a number
is read as a text of its own; in every other text the references are
replaced first.

Ranges and counts are 64-bit: a length or an item that does not fit is the
nearest that does.
-/

namespace Scenario

open Scenario.Text

inductive LoopSpec
  | range (start stop : Int)
  | items (values : List Json)
  | count (times : Nat)
  deriving Repr, BEq

inductive LoopSpecError
  | empty
  | invalidRange (text : String)
  | unrecognized (text : String)
  | negativeCount (count : Int)
  | unresolved (reference : String)
  | notIterable (reference kind : String)
  deriving Repr, DecidableEq

def LoopSpecError.message : LoopSpecError → String
  | empty => "loop specification is empty"
  | invalidRange text => s!"'{text}' is not a range of integers (expected start..end)"
  | unrecognized text => s!"'{text}' is not a range, a list or a count"
  | negativeCount count => s!"iteration count {count} is negative"
  | unresolved reference => s!"variable reference '{reference}' does not resolve"
  | notIterable reference kind =>
    s!"'{reference}' resolves to a {kind}, not an array or count"

namespace LoopSpec

/-- The inside of a text between brackets. -/
def bracketed? (cs : List Char) : Option (List Char) :=
  match cs with
  | '[' :: rest => if rest.getLast? = some ']' then some rest.dropLast else none
  | _ => none

/-- The inside of a text between `${` and `}` with no other `${` in it. -/
def reference? (cs : List Char) : Option (List Char) :=
  match cs with
  | '$' :: '\x7b' :: rest =>
    if rest.getLast? = some '\x7d' ∧ !occursIn ['$', '\x7b'] rest.dropLast then
      some rest.dropLast
    else none
  | _ => none

/-- The items of a written list: trimmed, without quotes, and not empty. -/
def listItems (inner : List Char) : List Json :=
  ((splitAt ',' inner).map fun item =>
      trimWhere (fun c => c == '"' || c == '\'') (trim item)).filterMap fun item =>
    if item.isEmpty then none else some (.string (String.ofList item))

/-- Reads a text without references. -/
def ofText (text : String) : Except LoopSpecError LoopSpec :=
  let cs := trim text.toList
  let shown := String.ofList cs
  if cs.isEmpty then .error .empty
  else
    match bracketed? cs with
    | some inner => .ok (.items (listItems inner))
    | none =>
      match splitFirst? ['.', '.'] cs with
      | some (start, stop) =>
        match integer? (trim start), integer? (trim stop) with
        | some i, some j => .ok (.range i j)
        | _, _ => .error (.invalidRange shown)
      | none =>
        match integer? cs with
        | none => .error (.unrecognized shown)
        | some i => if i < 0 then .error (.negativeCount i) else .ok (.count i.toNat)

/-- The loop over the value of a reference. -/
def ofValue (reference : String) : Json → Except LoopSpecError LoopSpec
  | .array values => .ok (.items values)
  | .number n => ofText (Json.number n).display
  | .string s => ofText s
  | other => .error (.notIterable reference other.kind)

/-- Reads a loop specification. -/
def parse (env : Environment) (store : Store) (text : String) : Except LoopSpecError LoopSpec :=
  let text := trimmed text
  match reference? text.toList with
  | some inside =>
    match store.resolve env (String.ofList inside) with
    | .error _ => .error (.unresolved text)
    | .ok value => ofValue text value
  | none => ofText (store.substitute env text)

/-- How many iterations the loop has. -/
def length : LoopSpec → Nat
  | range start stop => if stop < start then 0 else min (stop - start + 1).toNat wordLimit
  | items values => values.length
  | count times => times

def isEmpty (spec : LoopSpec) : Bool :=
  spec.length == 0

/-- The item of an iteration, counted from zero. -/
def itemAt (spec : LoopSpec) (index : Nat) : Json :=
  match spec with
  | range start _ => .ofInt (min (start + index) 0x7fffffffffffffff)
  | items values => values[index]?.getD .null
  | count _ => .ofNat ((index + 1) % (wordLimit + 1))

/-- A word for the form of the loop. -/
def form : LoopSpec → String
  | range _ _ => "range"
  | items _ => "items"
  | count _ => "count"

end LoopSpec

end Scenario
