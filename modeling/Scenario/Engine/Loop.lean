import Scenario.Engine.Basic
import Scenario.LoopSpec

/-!
# Loops

A loop runs its body once for every item, or as long as its condition
holds. Each iteration binds `iteration` and `index`, a `for` loop also
`item`; after the loop these names have again what they had before it. A
fault ends a loop, a failure does not.
-/

namespace Scenario

variable {σ : Type}

/-- The names that loops bind. -/
def loopVariables : List String := ["iteration", "index", "item"]

/-- Gives the names that loops bind what they have in `saved`. -/
def Store.restoreLoopVariables (saved store : Store) : Store :=
  loopVariables.foldl
    (fun store name =>
      match saved.get? name with
      | some value => store.insert name value
      | none => store.erase name)
    store

namespace Engine

/-- The row of a loop without iterations. -/
def emptyLoopRow (step : Step) (kind : LoopKind) : Row :=
  { step.row .skipped with logs := [kind.label ++ " loop produced no iterations"] }

/-- One iteration: binds the variables of the loop, asks the condition of
the step, and runs the body. -/
def iteration (e : Engine σ) (step : Step) (body : Runner σ) (frame : LoopFrame)
    (p : Progress σ) : StepRun × Progress σ :=
  let p := { p with store := frame.bind p.store }
  let suffix := s!" (iteration {frame.iteration})"
  let (run, p) :=
    match step.onlyIf with
    | none => body (some frame) p
    | some condition =>
      match e.check step condition p.store (some frame) with
      | .ok true => body (some frame) p
      | .ok false => (.ofRow (e.skippedRow step condition p.store), p)
      | .error row => (.ofRow row, p)
  ({ run with rows := run.rows.map (Row.withSuffix suffix) }, p)

/-- The iterations from `index` on; `done` are the rows before, the latest
first. -/
def forIterations (e : Engine σ) (step : Step) (body : Runner σ) (spec : LoopSpec)
    (condition : String) :
    (remaining index : Nat) → (done : List Row) → Progress σ → StepRun × Progress σ
  | 0, _, done, p => (⟨done.reverse, none⟩, p)
  | remaining + 1, index, done, p =>
    let frame : LoopFrame :=
      { kind := .forEach, index, item := some (spec.itemAt index), condition := some condition }
    let (run, p) := e.iteration step body frame p
    let done := run.rows.reverse ++ done
    match run.error with
    | some fault => (⟨done.reverse, some fault⟩, p)
    | none => forIterations e step body spec condition remaining (index + 1) done p

/-- The fault of a specification that cannot be read. -/
def forSpecFault (e : Engine σ) (step : Step) (text : String) (error : LoopSpecError) : Fault :=
  ((e.messages.fault .validation Code.invalidForSpec [text, error.message]).withSuggestion
    "use start..end, [a, b, c], a count, or $\x7barray_variable\x7d").locate step none

/-- A `for` loop. -/
def forLoop (e : Engine σ) (step : Step) (text : String) (body : Runner σ) (p : Progress σ) :
    StepRun × Progress σ :=
  match LoopSpec.parse e.env p.store text with
  | .error error => (.ofRow (step.faultRow (e.forSpecFault step text error)), p)
  | .ok spec =>
    if spec.isEmpty then (.ofRow (emptyLoopRow step .forEach), p)
    else
      let condition := p.store.substitute e.env text
      let saved := p.store
      let (run, p) := e.forIterations step body spec condition spec.length 0 [] p
      (run, { p with store := saved.restoreLoopVariables p.store })

/-- The position in a `while` loop. -/
def whileFrame (e : Engine σ) (condition : String) (limit index : Nat) (store : Store) :
    LoopFrame :=
  { kind := .whileTrue
    index
    condition := some (store.substitute e.env condition)
    maxIterations := some limit }

/-- The fault of a loop whose condition still holds at its limit. -/
def maxIterationsFault (e : Engine σ) (step : Step) (condition : String) (limit : Nat)
    (frame : Option LoopFrame) : Fault :=
  ((((e.messages.fault .execution Code.maxIterationsExceeded
    [toString limit, condition]).withContext "max_iterations" (.ofNat limit)).withContext
    "condition" (.string condition)).withSuggestion
    "make sure the loop body changes the condition, or raise max_iterations").locate step frame

/-- The iterations after `completed` others; at most `remaining` more may
run. -/
def whileIterations (e : Engine σ) (step : Step) (body : Runner σ) (condition : String)
    (limit : Nat) :
    (remaining completed : Nat) → (done : List Row) → Progress σ → StepRun × Progress σ
  | remaining, completed, done, p =>
    let last :=
      if completed = 0 then none
      else some (e.whileFrame condition limit (completed - 1) p.store)
    match e.check step condition p.store last with
    | .error row => (⟨(row :: done).reverse, row.result.outcome.fault?⟩, p)
    | .ok false => (⟨done.reverse, none⟩, p)
    | .ok true =>
      match remaining with
      | 0 =>
        let fault := e.maxIterationsFault step condition limit last
        (⟨(step.faultRow fault :: done).reverse, some fault⟩, p)
      | remaining + 1 =>
        let (run, p) := e.iteration step body (e.whileFrame condition limit completed p.store) p
        let done := run.rows.reverse ++ done
        match run.error with
        | some fault => (⟨done.reverse, some fault⟩, p)
        | none => whileIterations e step body condition limit remaining (completed + 1) done p

/-- A `while` loop. -/
def whileLoop (e : Engine σ) (step : Step) (condition : String) (body : Runner σ)
    (p : Progress σ) : StepRun × Progress σ :=
  let limit := e.limits.loopLimit step.maxIterations
  let saved := p.store
  let (run, p) := e.whileIterations step body condition limit limit 0 [] p
  let p := { p with store := saved.restoreLoopVariables p.store }
  if run.rows.isEmpty then (.ofRow (emptyLoopRow step .whileTrue), p) else (run, p)

end Engine

end Scenario
