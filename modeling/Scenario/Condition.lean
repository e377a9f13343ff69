import Scenario.Double.Reader
import Scenario.Store.Substitution

/-!
# Conditions

A condition is a truth value or one comparison. The operators are looked
for in a fixed order, longer symbols before the ones they contain, and the
first operator that occurs anywhere splits the condition at its first
occurrence. Words count as operators only between blanks.

The ordering operators compare numbers if both operands are numbers and
code points otherwise; all other operators compare texts.
-/

namespace Scenario

open Scenario.Text

inductive Operator
  | atLeast
  | atMost
  | above
  | below
  | equal
  | notEqual
  | contains
  | startsWith
  | endsWith
  deriving Repr, DecidableEq

namespace Operator

/-- All operators in the order in which they are looked for. -/
def scanOrder : List Operator :=
  [atLeast, atMost, above, below, equal, notEqual, contains, startsWith, endsWith]

def symbol : Operator → String
  | atLeast => ">="
  | atMost => "<="
  | above => ">"
  | below => "<"
  | equal => "=="
  | notEqual => "!="
  | contains => "contains"
  | startsWith => "starts_with"
  | endsWith => "ends_with"

/-- The operator of a symbol, blanks around it aside. -/
def ofSymbol? (text : String) : Option Operator :=
  scanOrder.find? fun op => op.symbol == trimmed text

def isWord : Operator → Bool
  | contains | startsWith | endsWith => true
  | _ => false

/-- The text that marks the operator inside a condition. -/
def mark (op : Operator) : List Char :=
  if op.isWord then ' ' :: op.symbol.toList ++ [' '] else op.symbol.toList

/-- The order of two operands: by value if both are numbers, where what is
not a number counts as equal to everything, by code points otherwise. -/
def order (left right : String) : Ordering :=
  match Double.read? left.toList, Double.read? right.toList with
  | some x, some y => (x.compare? y).getD .eq
  | _, _ => compare left right

/-- Applies an operator to two operands. -/
def apply (op : Operator) (left right : String) : Bool :=
  match op with
  | atLeast => order left right != .lt
  | atMost => order left right != .gt
  | above => order left right == .gt
  | below => order left right == .lt
  | equal => left == right
  | notEqual => left != right
  | contains => Text.contains left right
  | startsWith => Text.startsWith left right
  | endsWith => Text.endsWith left right

/-- The first operator of the scan order that occurs in a text, and the
parts of the text around it. -/
def split? (text : List Char) : Option (Operator × List Char × List Char) :=
  scanOrder.findSome? fun op => (splitFirst? op.mark text).map fun (l, r) => (op, l, r)

end Operator

inductive ConditionError
  | empty
  | unevaluable (condition : String)
  | missingOperand (op : Operator) (condition : String)
  deriving Repr, DecidableEq

def ConditionError.message : ConditionError → String
  | empty => "condition is empty"
  | unevaluable condition =>
    s!"unevaluable condition '{condition}': no supported operator found"
  | missingOperand op condition =>
    "operator '" ++ op.symbol ++ "' in '" ++ condition ++ "' needs a left and a right operand"

namespace Condition

/-- Removes one pair of equal quotes around an operand. -/
def unquote (operand : List Char) : List Char :=
  match operand with
  | first :: second :: rest =>
    let body := second :: rest
    if (first == '"' || first == '\'') && body.getLast? == some first then body.dropLast
    else operand
  | _ => operand

/-- The value of a condition that is a truth value. -/
def literal? (condition : String) : Option Bool :=
  let word := loweredAscii condition
  if word = "true" ∨ word = "1" then some true
  else if word = "false" ∨ word = "0" then some false
  else none

/-- Evaluates a condition without references. -/
def evaluateText (condition : String) : Except ConditionError Bool :=
  let condition := trimmed condition
  if condition.isEmpty then .error .empty
  else
    match literal? condition with
    | some value => .ok value
    | none =>
      match Operator.split? condition.toList with
      | none => .error (.unevaluable condition)
      | some (op, left, right) =>
        let left := unquote (trim left)
        let right := unquote (trim right)
        if left.isEmpty && right.isEmpty then .error (.missingOperand op condition)
        else .ok (op.apply (String.ofList left) (String.ofList right))

/-- Evaluates a condition after replacing its references. -/
def evaluate (env : Environment) (store : Store) (condition : String) :
    Except ConditionError Bool :=
  evaluateText (store.substitute env condition)

end Condition

end Scenario
