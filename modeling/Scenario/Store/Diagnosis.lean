import Scenario.Store.Substitution
import Scenario.Suggestion

/-!
# Diagnosis of references

Why a text does not fully resolve: one attempt for every opening `${`,
first those that begin a reference, then those that dangle. A text all of
whose openings resolve has no diagnosis.
-/

namespace Scenario

inductive ResolutionStatus
  | resolved
  /-- The variable itself does not exist. -/
  | unresolved
  /-- The variable exists, but a segment of the path fails. -/
  | incomplete
  /-- The reference is malformed. -/
  | expressionError
  deriving Repr, DecidableEq

def ResolutionStatus.label : ResolutionStatus → String
  | resolved => "resolved"
  | unresolved => "unresolved"
  | incomplete => "partial"
  | expressionError => "expression_error"

/-- What became of one reference. -/
structure ReferenceAttempt where
  expression : String
  status : ResolutionStatus := .resolved
  reason : Option String := none
  accessPath : List String := []
  availableKeys : List String := []
  suggestions : List String := []
  deriving Repr, DecidableEq

/-- The attempts for a text of which at least one failed. -/
structure Diagnosis where
  template : String
  attempts : List ReferenceAttempt
  deriving Repr, DecidableEq

namespace ReferenceAttempt

/-- The attempt for an expression that failed. -/
def ofFailure (names : List String) (expression : String) : Unresolved → ReferenceAttempt
  | .empty =>
    { expression, status := .expressionError, reason := some "empty reference" }
  | .environment name =>
    { expression
      status := .unresolved
      reason := some s!"environment variable '{name}' is not set"
      accessPath := ["ENV:" ++ name] }
  | .unknown name =>
    { expression
      status := .unresolved
      reason := some s!"variable '{name}' not found"
      accessPath := [name]
      availableKeys := names
      suggestions := Suggestion.names name names }
  | .path root failure =>
    { expression
      status := .incomplete
      reason := some (failure.reason.message ++ " (" ++ failure.reason.label ++ ")")
      accessPath := root :: failure.resolved ++ [failure.failedSegment]
      availableKeys := failure.availableKeys
      suggestions := Suggestion.names failure.failedSegment failure.availableKeys }

/-- The attempt for the inside of a reference. -/
def ofExpression (env : Environment) (store : Store) (expression : String) : ReferenceAttempt :=
  match store.resolve env expression with
  | .ok _ => { expression }
  | .error failure => ofFailure store.keys expression failure

/-- The attempt for an opening that begins no reference. -/
def ofDangling (rest : String) : ReferenceAttempt :=
  { expression := rest
    status := .expressionError
    reason := some "unterminated or nested reference" }

def failed (a : ReferenceAttempt) : Bool :=
  a.status != .resolved

/-- A reference and what is wrong with it. -/
def line (a : ReferenceAttempt) : String :=
  let reference := "$\x7b" ++ a.expression ++ "\x7d"
  match a.reason with
  | some reason => reference ++ ": " ++ reason
  | none => reference

/-- Hints for a failed reference. -/
def hints (a : ReferenceAttempt) : List String :=
  a.suggestions.map fun name =>
    "did you mean '" ++ name ++ "' instead of '" ++ a.expression ++ "'?"

/-- A list of texts as a field, unless it is empty. -/
def listField (name : String) (texts : List String) : List (String × Json) :=
  if texts.isEmpty then [] else [(name, .ofStrings texts)]

/-- The attempt as a value; what is missing or empty is left out. -/
def toJson (a : ReferenceAttempt) : Json :=
  .ofFields <|
    [("expression", .string a.expression), ("status", .string a.status.label)] ++
      (a.reason.map fun reason => ("reason", Json.string reason)).toList ++
      listField "access_path" a.accessPath ++ listField "available_keys" a.availableKeys ++
      listField "suggestions" a.suggestions

end ReferenceAttempt

namespace Diagnosis

def failures (d : Diagnosis) : List ReferenceAttempt :=
  d.attempts.filter ReferenceAttempt.failed

/-- One phrase for every reference that failed. -/
def summary (d : Diagnosis) : String :=
  String.intercalate "; " (d.failures.map ReferenceAttempt.line)

/-- The hints for all references that failed. -/
def suggestions (d : Diagnosis) : List String :=
  d.failures.flatMap ReferenceAttempt.hints

def toJson (d : Diagnosis) : Json :=
  .ofFields [
    ("template", .string d.template),
    ("attempts", .array (d.attempts.map ReferenceAttempt.toJson))]

end Diagnosis

namespace Store

/-- One attempt for every opening of a reference. -/
def attempts (env : Environment) (store : Store) (template : String) : List ReferenceAttempt :=
  let pieces := Piece.ofText template.toList
  let references := pieces.filterMap fun
    | .reference inside => some (ReferenceAttempt.ofExpression env store (String.ofList inside))
    | _ => none
  let danglings := pieces.filterMap fun
    | .dangling rest => some (ReferenceAttempt.ofDangling (String.ofList rest))
    | _ => none
  references ++ danglings

/-- Why a text does not fully resolve. -/
def diagnose (env : Environment) (store : Store) (template : String) : Option Diagnosis :=
  let attempts := store.attempts env template
  if attempts.any ReferenceAttempt.failed then some ⟨template, attempts⟩ else none

/-- One diagnosis of all the strings in some values: the attempts of every
string that fails, under the first of them. -/
def diagnoseValues (env : Environment) (store : Store) (values : List Json) : Option Diagnosis :=
  match (values.flatMap Json.strings).filterMap (store.diagnose env) with
  | [] => none
  | first :: rest => some ⟨first.template, first.attempts ++ rest.flatMap Diagnosis.attempts⟩

end Store

end Scenario
