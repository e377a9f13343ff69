import Scenario.Action.Basic
import Scenario.Message
import Scenario.Table.Selection

/-!
# Extraction

What a step takes from the data of its action. Patterns and tables are
handled here; queries are left to the actions that are registered under
the names of their languages, called with the data and the expression.
-/

namespace Scenario

inductive ExtractionError
  | invalidPattern (pattern reason : String)
  | noMatch (pattern : String)
  | invalidGroup (group : Nat) (pattern : String) (available : Nat)
  | table (e : TableError)
  | selection (e : SelectionError)
  | missingExtractor (kind : ExtractKind)
  | delegated (kind : ExtractKind) (message : String)
  deriving Repr, DecidableEq

namespace ExtractionError

def message : ExtractionError → String
  | invalidPattern pattern reason => s!"invalid regex pattern '{pattern}': " ++ reason
  | noMatch pattern => s!"regex pattern '{pattern}' did not match"
  | invalidGroup group pattern available =>
    s!"invalid capture group {group}: pattern '{pattern}' has {available} capture group(s)"
  | table e => "failed to parse CSV data: " ++ e.message
  | selection e => "CSV selection failed: " ++ e.message
  | missingExtractor kind => "no action registered for " ++ kind.label ++ " extraction"
  | delegated kind message => kind.label ++ " extraction failed: " ++ message

def code : ExtractionError → String
  | invalidPattern _ _ => Code.invalidRegex
  | noMatch _ => Code.regexNoMatch
  | invalidGroup _ _ _ => Code.invalidCaptureGroup
  | table _ => Code.csvParseFailed
  | selection _ => Code.csvSelectionFailed
  | missingExtractor _ => Code.extractionFailed
  | delegated _ _ => Code.extractionFailed

/-- The fault without its context. -/
def bareFault (messages : MessageTable) (e : ExtractionError) : Fault :=
  match e with
  | invalidPattern pattern reason => messages.fault .validation e.code [pattern, reason]
  | noMatch pattern =>
    (messages.fault .execution e.code [pattern]).withSuggestion
      "check the action output or loosen the pattern"
  | invalidGroup group pattern available =>
    (messages.fault .validation e.code [toString group, pattern, toString available]).withSuggestion
      s!"use a group between 0 and {available}"
  | table reason => messages.fault .execution e.code [reason.message]
  | selection reason => messages.fault .execution e.code [reason.message]
  | missingExtractor kind =>
    (messages.fault .validation e.code [kind.label, e.message]).withSuggestion
      ("register an action named '" ++ kind.label ++ "'")
  | delegated kind message => messages.fault .execution e.code [kind.label, message]

/-- The fault of a step whose extraction of a kind fails. -/
def toFault (messages : MessageTable) (kind : ExtractKind) (e : ExtractionError) : Fault :=
  (e.bareFault messages).withContext "extract_type" (.string kind.label)

end ExtractionError

namespace Extraction

/-- The text of a group of the first match; group one unless another is
asked for, and empty if the group took no part. -/
def fromPattern (library : PatternLibrary) (pattern : String) (group : Option Nat)
    (data : Json) : Except ExtractionError Json :=
  match library.read pattern with
  | .error reason => .error (.invalidPattern pattern reason)
  | .ok p =>
    let group := group.getD 1
    if p.groups < group then .error (.invalidGroup group pattern p.groups)
    else
      match p.find? data.display.toList with
      | none => .error (.noMatch pattern)
      | some found => .ok (.string (String.ofList ((found group).getD [])))

/-- What a pattern takes from data is a part of its text. -/
theorem fromPattern_infix {library : PatternLibrary} {pattern : String} {group : Option Nat}
    {data value : Json} (h : fromPattern library pattern group data = .ok value) :
    ∃ part, value = .string (String.ofList part) ∧ part <:+: data.display.toList := by
  unfold fromPattern at h
  dsimp only at h
  split at h
  · cases h
  · split at h
    · cases h
    · split at h
      · cases h
      · next p _ _ _ found hfound =>
          refine ⟨_, (Except.ok.inj h).symm, ?_⟩
          cases hpart : found (group.getD 1) with
          | none => exact List.nil_infix
          | some part => exact p.part_infix hfound hpart

def fromTable (spec : Extraction) (data : Json) : Except ExtractionError Json :=
  match Table.load data spec.delimiter with
  | .error e => .error (.table e)
  | .ok table =>
    match table.select spec with
    | .error e => .error (.selection e)
    | .ok value => .ok value

/-- What a delegated extraction makes of the result of its action. -/
def ofResult (kind : ExtractKind) (result : ActionResult) : Except ExtractionError Json :=
  match result.outcome with
  | .passed => .ok (result.data.getD .null)
  | .error fault => .error (.delegated kind fault.message)
  | .failed failure => .error (.delegated kind failure.message)
  | .skipped => .error (.delegated kind "extractor was skipped")

variable {σ : Type}

/-- Hands the data and the expression to the action of the language. -/
def delegate (catalog : Catalog σ) (spec : Extraction) (data : Json) (store : Store) (state : σ) :
    Except ExtractionError Json × Store × σ :=
  match catalog.get? spec.kind.label with
  | none => (.error (.missingExtractor spec.kind), store, state)
  | some action =>
    let (result, store, state) := action [data, .string spec.path] .empty store state
    (ofResult spec.kind result, store, state)

/-- Extracts from the data of an action. -/
def run (catalog : Catalog σ) (spec : Extraction) (data : Json) (store : Store) (state : σ) :
    Except ExtractionError Json × Store × σ :=
  match spec.kind with
  | .jq => delegate catalog spec data store state
  | .xpath => delegate catalog spec data store state
  | .regex => (fromPattern catalog.patterns spec.path spec.group data, store, state)
  | .csv => (spec.fromTable data, store, state)

end Extraction

end Scenario
