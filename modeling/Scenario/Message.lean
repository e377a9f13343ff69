import Scenario.Outcome

/-!
# Message templates

Messages are written by templates, one for each code. A template has four
verbs that take the next argument: `%s`, `%d` and `%v` insert it, `%q`
inserts it between single quotes; `%%` is a percent sign. No other
character may follow a percent sign, so a table holds parsed templates
only. Arguments are inserted as they are and never read as templates.

A missing argument is written `<missing>`. A code without a template is
its own message, followed by the arguments if there are any.
-/

namespace Scenario

/-- How an argument is inserted. -/
inductive Verb
  | string
  | decimal
  | value
  | quoted
  deriving Repr, DecidableEq

namespace Verb

def letter : Verb → Char
  | string => 's'
  | decimal => 'd'
  | value => 'v'
  | quoted => 'q'

def ofLetter? (c : Char) : Option Verb :=
  if c = 's' then some string
  else if c = 'd' then some decimal
  else if c = 'v' then some value
  else if c = 'q' then some quoted
  else none

/-- An argument as it is inserted. -/
def insert : Verb → String → List Char
  | quoted, arg => '\'' :: arg.toList ++ ['\'']
  | _, arg => arg.toList

end Verb

/-- A part of a template. -/
inductive TemplatePart
  | literal (c : Char)
  | percent
  | argument (verb : Verb)
  deriving Repr, DecidableEq

abbrev Template := List TemplatePart

inductive TemplateError
  | unsupportedVerb (code : String) (verb : Char) (position : Nat)
  | danglingPercent (code : String)
  deriving Repr, DecidableEq

def TemplateError.message : TemplateError → String
  | unsupportedVerb code verb position =>
    s!"template for '{code}' uses unsupported verb '%{verb}' at byte {position}"
  | danglingPercent code => s!"template for '{code}' ends with a dangling '%'"

namespace Template

/-- Reads a template that begins at a byte position; an error tells the
position of its percent sign. -/
def parseFrom (code : String) (position : Nat) : List Char → Except TemplateError Template
  | [] => .ok []
  | ['%'] => .error (.danglingPercent code)
  | '%' :: c :: rest =>
    if c = '%' then
      return .percent :: (← parseFrom code (position + 2) rest)
    else
      match Verb.ofLetter? c with
      | some verb => return .argument verb :: (← parseFrom code (position + 2) rest)
      | none => .error (.unsupportedVerb code c position)
  | c :: rest => return .literal c :: (← parseFrom code (position + c.utf8Size) rest)

/-- Reads a template. -/
def parse (code text : String) : Except TemplateError Template :=
  parseFrom code 0 text.toList

/-- The characters of a part. -/
def partChars : TemplatePart → List Char
  | .literal c => [c]
  | .percent => ['%', '%']
  | .argument verb => ['%', verb.letter]

/-- The text of a template. -/
def text (t : Template) : String :=
  String.ofList (t.flatMap partChars)

/-- Writes a message. -/
def render : Template → List String → List Char
  | [], _ => []
  | .literal c :: rest, args => c :: render rest args
  | .percent :: rest, args => '%' :: render rest args
  | .argument _ :: rest, [] => "<missing>".toList ++ render rest []
  | .argument verb :: rest, arg :: args => verb.insert arg ++ render rest args

/-- How many arguments a template takes. -/
def arity (t : Template) : Nat :=
  (t.filter fun
    | .argument _ => true
    | _ => false).length

end Template

/-! ## Codes -/

namespace Code

def unknownAction : String := "UNKNOWN_ACTION"
def invalidCondition : String := "INVALID_CONDITION"
def invalidForSpec : String := "INVALID_FOR_SPEC"
def invalidRetryDelay : String := "INVALID_RETRY_DELAY"
def invalidRetryCondition : String := "INVALID_RETRY_CONDITION"
def maxIterationsExceeded : String := "MAX_ITERATIONS_EXCEEDED"
def emptyStep : String := "EMPTY_STEP"
def extractionFailed : String := "EXTRACTION_FAILED"
def invalidRegex : String := "INVALID_REGEX"
def regexNoMatch : String := "REGEX_NO_MATCH"
def invalidCaptureGroup : String := "INVALID_CAPTURE_GROUP"
def csvParseFailed : String := "CSV_PARSE_FAILED"
def csvSelectionFailed : String := "CSV_SELECTION_FAILED"
def invalidArguments : String := "INVALID_ARGUMENTS"
def assertionFailed : String := "ASSERTION_FAILED"
def explicitFailure : String := "EXPLICIT_FAILURE"
def setupFailed : String := "SETUP_FAILED"

end Code

/-! ## Tables -/

/-- The templates in force, by code. -/
structure MessageTable where
  templates : OrderedMap Template := .empty

namespace MessageTable

/-- A table without templates. -/
def empty : MessageTable := {}

def get? (table : MessageTable) (code : String) : Option Template :=
  table.templates.get? code

/-- Sets the template of a code; a refused one changes nothing. -/
def insert (table : MessageTable) (code text : String) : Except TemplateError MessageTable :=
  match Template.parse code text with
  | .ok template => .ok ⟨table.templates.insert code template⟩
  | .error e => .error e

/-- The texts of the standard templates. -/
def standardTexts : List (String × String) := [
  (Code.unknownAction, "unknown action %q"),
  (Code.invalidCondition, "cannot evaluate condition %q: %s"),
  (Code.invalidForSpec, "invalid for loop specification %q: %s"),
  (Code.invalidRetryDelay, "invalid retry delay %q: %s"),
  (Code.invalidRetryCondition, "cannot evaluate retry_if condition %q: %s"),
  (Code.maxIterationsExceeded,
    "while loop exceeded maximum iterations (%d) for condition %q"),
  (Code.emptyStep, "step %q has no action or nested steps to execute"),
  (Code.extractionFailed, "%s extraction failed: %s"),
  (Code.invalidRegex, "invalid regex pattern %q: %s"),
  (Code.regexNoMatch, "regex pattern %q did not match"),
  (Code.invalidCaptureGroup,
    "invalid capture group %d: pattern %q has %d capture group(s)"),
  (Code.csvParseFailed, "failed to parse CSV data: %s"),
  (Code.csvSelectionFailed, "CSV selection failed: %s"),
  (Code.invalidArguments, "action %q received invalid arguments: %s"),
  (Code.assertionFailed, "assertion failed: expected %v %s %v"),
  (Code.explicitFailure, "%s"),
  (Code.setupFailed, "critical setup step %q failed: %s")]

/-- The table with a template for every code of this library. -/
def standard : MessageTable :=
  standardTexts.foldl
    (fun table (code, text) => (table.insert code text).toOption.getD table) empty

/-- The message for a code. -/
def render (table : MessageTable) (code : String) (args : List String) : String :=
  match table.get? code with
  | some template => String.ofList (template.render args)
  | none => if args.isEmpty then code else code ++ ": " ++ String.intercalate ", " args

def fault (table : MessageTable) (category : FaultCategory) (code : String)
    (args : List String) : Fault :=
  { category, code, message := table.render code args }

def failure (table : MessageTable) (category : FailureCategory) (code : String)
    (args : List String) : Failure :=
  { category, code, message := table.render code args }

end MessageTable

end Scenario
