import Scenario.Json.Printer
import Scenario.Store.Basic
import Scenario.Store.Reference

/-!
# Substitution

Every reference that resolves is replaced by the text of its value;
everything else stands as it was. The text that is put in is never looked
at again.

In a value, a string that is one reference becomes the value it stands
for, with its kind; other strings are substituted as texts, containers
item by item, and the names of fields are left alone.
-/

namespace Scenario.Store

/-- The text that stands for a piece. -/
def pieceText (env : Environment) (store : Store) (piece : Piece) : List Char :=
  match piece with
  | .reference inside =>
    match store.resolve env (String.ofList inside) with
    | .ok value => value.display.toList
    | .error _ => piece.chars
  | _ => piece.chars

/-- A text with its references replaced. -/
def substitute (env : Environment) (store : Store) (template : String) : String :=
  String.ofList ((Piece.ofText template.toList).flatMap (store.pieceText env))

/-- The value of a string that is one reference which resolves. -/
def wholeValue? (env : Environment) (store : Store) (template : String) : Option Json :=
  match Piece.whole? template.toList with
  | some inside => (store.resolve env (String.ofList inside)).toOption
  | none => none

/-- A string as a value after substitution. -/
def substituteString (env : Environment) (store : Store) (template : String) : Json :=
  match store.wholeValue? env template with
  | some value => value
  | none => .string (store.substitute env template)

mutual

/-- A value with the references in its strings replaced. -/
def substituteValue (env : Environment) (store : Store) : Json → Json
  | .string s => store.substituteString env s
  | .array items => .array (store.substituteItems env items)
  | .object fields => .object (store.substituteFields env fields)
  | .null => .null
  | .bool b => .bool b
  | .number n => .number n

def substituteItems (env : Environment) (store : Store) : List Json → List Json
  | [] => []
  | v :: vs => store.substituteValue env v :: store.substituteItems env vs

def substituteFields (env : Environment) (store : Store) :
    List (String × Json) → List (String × Json)
  | [] => []
  | (name, v) :: vs => (name, store.substituteValue env v) :: store.substituteFields env vs

end

/-- Options keep their names and order. -/
def substituteOptions (env : Environment) (store : Store) (options : OrderedMap Json) :
    OrderedMap Json :=
  options.mapValues (store.substituteValue env)

/-- Assigns declarations in order; each sees the variables before it. -/
def load (env : Environment) (store : Store) (declared : List (String × Json)) : Store :=
  declared.foldl (fun store (name, value) => store.insert name (store.substituteValue env value))
    store

end Scenario.Store
