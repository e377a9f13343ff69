import Scenario.Engine.Basic

/-!
# One attempt at an action

An attempt replaces the references in the arguments and options, calls the
action, extracts from its data and stores the result. Only a passing
attempt stores a result. A fault keeps all that the action said about it;
what the engine knows is added.
-/

namespace Scenario.Engine

variable {σ : Type}

/-- The fault of a step that has nothing to run. -/
def emptyStepFault (e : Engine σ) (step : Step) (frame : Option LoopFrame) : Fault :=
  ((e.messages.fault .validation Code.emptyStep [step.name]).withSuggestion
    "add an 'action' or nested 'steps'").locate step frame

/-- The fault of a step whose action is not registered. -/
def unknownActionFault (e : Engine σ) (step : Step) (action : String)
    (frame : Option LoopFrame) : Fault :=
  let names := e.catalog.keys
  let hints := (Suggestion.names action names).map fun name => "did you mean '" ++ name ++ "'?"
  (((e.messages.fault .validation Code.unknownAction [action]).withContext "available_actions"
    (.ofStrings names)).withSuggestions hints).locate step frame

/-- What is wrong with the references in the arguments and options. -/
def diagnoseInputs (e : Engine σ) (step : Step) (store : Store) : Option Diagnosis :=
  store.diagnoseValues e.env (step.args ++ step.options.entries.map Prod.snd)

/-- Extracts from the data of an action that passed, if the step asks for
it; gives the result, what is logged, and what the extraction changed. -/
def extracted (e : Engine σ) (step : Step) (result : ActionResult) (store : Store) (state : σ) :
    ActionResult × List String × Store × σ :=
  match result.outcome, step.extract with
  | .passed, some spec =>
    let data := result.data.getD .null
    match spec.run e.catalog data store state with
    | (.ok value, store, state) =>
      (⟨.passed, some value⟩, ["extracted value with " ++ spec.kind.label], store, state)
    | (.error error, store, state) =>
      (⟨.error (error.toFault e.messages spec.kind), some data⟩, [], store, state)
  | _, _ => (result, [], store, state)

/-- Stores the data of a result that passed, and completes the details of
one that did not. -/
def concluded (e : Engine σ) (step : Step) (frame : Option LoopFrame) (result : ActionResult)
    (store : Store) : ActionResult × List String × Store :=
  match result.outcome with
  | .passed =>
    match step.result with
    | some name =>
      (result, ["stored result in '" ++ name ++ "'"], store.insert name (result.data.getD .null))
    | none => (result, [], store)
  | .error fault =>
    let fault := (fault.locate step frame).explain (e.diagnoseInputs step store)
    ({ result with outcome := .error fault }, [], store)
  | .failed failure =>
    match e.diagnoseInputs step store with
    | some d =>
      ({ result with outcome := .failed (failure.withSuggestions d.suggestions) },
        ["unresolved references: " ++ d.summary], store)
    | none => (result, [], store)
  | .skipped => (result, [], store)

/-- Calls an action and turns its result into a row. -/
def call (e : Engine σ) (step : Step) (name : String) (action : Action σ)
    (frame : Option LoopFrame) (p : Progress σ) : Row × Progress σ :=
  let args := p.store.substituteItems e.env step.args
  let options := p.store.substituteOptions e.env step.options
  let (result, store, state) := action args options p.store p.state
  let (result, extraction, store, state) := e.extracted step result store state
  let (result, conclusion, store) := e.concluded step frame result store
  ({ name := step.name, action := name, result, logs := extraction ++ conclusion, attempts := 1 },
    { p with store, state })

/-- Runs the action of a step once. -/
def attempt (e : Engine σ) (step : Step) (frame : Option LoopFrame) (p : Progress σ) :
    Row × Progress σ :=
  match step.action with
  | none => ({ step.faultRow (e.emptyStepFault step frame) with attempts := 1 }, p)
  | some name =>
    match e.catalog.get? name with
    | none => ({ step.faultRow (e.unknownActionFault step name frame) with attempts := 1 }, p)
    | some action => e.call step name action frame p

end Scenario.Engine
