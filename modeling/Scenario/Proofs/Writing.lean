import Scenario.Engine.Attempt

/-!
# What an attempt writes

An attempt calls the action of its step and, if that passes and the step
extracts from its data with a query, the action of the query language. Each
of them may write to the variables. `Engine.calls` lists these calls, and
`Engine.called` is what they leave, one after the other.

What the engine itself adds is one assignment or none: the data of the row,
under the name of the result, if the row passed (`attempt_store`). So it
matters how a row ends: an extraction that fails turns a pass into an error
and keeps the data of the action, and no other part of an attempt changes
the status or the data of a result. Main statement: `Engine.attempt_writes`.
-/

namespace Scenario

variable {σ : Type}

/-! ## Calls -/

/-- An action and what it is called with. -/
structure ActionCall (σ : Type) where
  action : Action σ
  args : List Json
  options : OrderedMap Json

namespace ActionCall

def result (call : ActionCall σ) (p : Progress σ) : ActionResult :=
  (call.action call.args call.options p.store p.state).1

/-- The state after a call. -/
def after (call : ActionCall σ) (p : Progress σ) : Progress σ :=
  let (_, store, state) := call.action call.args call.options p.store p.state
  { p with store, state }

/-- The state after some calls, one after the other. -/
def afterAll (calls : List (ActionCall σ)) (p : Progress σ) : Progress σ :=
  calls.foldl (fun p call => call.after p) p

end ActionCall

open ActionCall (afterAll)

/-- The call that an extraction leaves its work to, if it is a query. -/
def Extraction.call? (spec : Extraction) (catalog : Catalog σ) (data : Json) :
    Option (ActionCall σ) :=
  match spec.kind with
  | .jq | .xpath =>
    (catalog.get? spec.kind.label).map fun action => ⟨action, [data, .string spec.path], .empty⟩
  | .regex | .csv => none

/-- What a step extracts from a result: something only if that is a pass. -/
def Step.extraction? (step : Step) (result : ActionResult) : Option Extraction :=
  match result.outcome with
  | .passed => step.extract
  | _ => none

namespace Engine

/-- The call of the action of a step. -/
def call? (e : Engine σ) (step : Step) (p : Progress σ) : Option (ActionCall σ) :=
  (step.action.bind e.catalog.get?).map fun action =>
    ⟨action, p.store.substituteItems e.env step.args,
      p.store.substituteOptions e.env step.options⟩

/-- The call of the extraction from a result. -/
def extractionCall? (e : Engine σ) (step : Step) (result : ActionResult) :
    Option (ActionCall σ) :=
  (step.extraction? result).bind fun spec => spec.call? e.catalog (result.data.getD .null)

/-- The calls of an attempt in order. -/
def calls (e : Engine σ) (step : Step) (p : Progress σ) : List (ActionCall σ) :=
  match e.call? step p with
  | none => []
  | some call => call :: (e.extractionCall? step (call.result p)).toList

/-- The state that the calls of an attempt leave, before the engine assigns
anything. -/
def called (e : Engine σ) (step : Step) (p : Progress σ) : Progress σ :=
  afterAll (e.calls step p) p

end Engine

/-! ## Extractions -/

theorem ActionResult.status_eq_passed_iff {result : ActionResult} :
    result.status = .passed ↔ result.outcome = .passed := by
  unfold status
  cases result.outcome <;> simp [Outcome.status]

theorem Step.extraction?_eq_some_iff {step : Step} {result : ActionResult} {spec : Extraction} :
    step.extraction? result = some spec ↔
      result.status = .passed ∧ step.extract = some spec := by
  rw [ActionResult.status_eq_passed_iff]
  unfold extraction?
  cases result.outcome <;> simp

theorem Step.extraction?_eq_none_iff {step : Step} {result : ActionResult} :
    step.extraction? result = none ↔ result.status ≠ .passed ∨ step.extract = none := by
  rw [ne_eq, ActionResult.status_eq_passed_iff]
  unfold extraction?
  cases result.outcome <;> simp

/-- Only a query changes anything, and it changes what its action does. -/
theorem Extraction.run_after (spec : Extraction) (catalog : Catalog σ) (data : Json)
    (p : Progress σ) :
    let q := afterAll (spec.call? catalog data).toList p
    (spec.run catalog data p.store p.state).2 = (q.store, q.state) := by
  have hdelegate : (delegate catalog spec data p.store p.state).2 =
      let q := afterAll ((catalog.get? spec.kind.label).map fun action =>
        ⟨action, [data, .string spec.path], .empty⟩).toList p
      (q.store, q.state) := by
    unfold delegate
    cases catalog.get? spec.kind.label <;> rfl
  unfold run call?
  cases hkind : spec.kind with
  | jq | xpath =>
      rw [hkind] at hdelegate
      exact hdelegate
  | regex | csv => rfl

namespace Engine

/-- The result after an extraction: its value, or an error with the data
that it was made from. -/
def extractedResult (e : Engine σ) (spec : Extraction) (given : Json) :
    Except ExtractionError Json → ActionResult
  | .ok value => ⟨.passed, some value⟩
  | .error error => ⟨.error (error.toFault e.messages spec.kind), some given⟩

theorem extracted_of_none (e : Engine σ) {step : Step} {result : ActionResult}
    (h : step.extraction? result = none) (store : Store) (state : σ) :
    e.extracted step result store state = (result, [], store, state) := by
  unfold Step.extraction? at h
  unfold extracted
  cases houtcome : result.outcome with
  | passed =>
      rw [houtcome] at h
      dsimp only at h
      rw [h]
  | failed | error | skipped => rfl

theorem extracted_of_some (e : Engine σ) {step : Step} {result : ActionResult}
    {spec : Extraction} (h : step.extraction? result = some spec) (store : Store) (state : σ) :
    let given := result.data.getD .null
    let run := spec.run e.catalog given store state
    (e.extracted step result store state).1 = e.extractedResult spec given run.1 ∧
      (e.extracted step result store state).2.2 = run.2 := by
  obtain ⟨hpassed, hextract⟩ := Step.extraction?_eq_some_iff.mp h
  unfold extracted
  rw [ActionResult.status_eq_passed_iff.mp hpassed, hextract]
  dsimp only
  rcases spec.run e.catalog (result.data.getD .null) store state with ⟨_ | _, _, _⟩ <;>
    exact ⟨rfl, rfl⟩

/-- An extraction changes what its call does, if it makes one. -/
theorem extracted_after (e : Engine σ) (step : Step) (result : ActionResult) (p : Progress σ) :
    let q := afterAll (e.extractionCall? step result).toList p
    (e.extracted step result p.store p.state).2.2 = (q.store, q.state) := by
  unfold extractionCall?
  cases hspec : step.extraction? result with
  | none => rw [e.extracted_of_none hspec]; rfl
  | some spec =>
      obtain ⟨-, hafter⟩ := e.extracted_of_some hspec p.store p.state
      exact hafter.trans (spec.run_after e.catalog _ p)

/-! ## The end of an attempt -/

/-- What the engine makes of the variables for a row: a result that passed
is assigned to its name. -/
def stored (step : Step) (result : ActionResult) (store : Store) : Store :=
  match step.result with
  | none => store
  | some name =>
    if result.status = .passed then store.insert name (result.data.getD .null) else store

theorem stored_of_not_passed {step : Step} {result : ActionResult} (store : Store)
    (h : result.status ≠ .passed) : stored step result store = store := by
  unfold stored
  split
  · rfl
  · rw [if_neg h]

theorem stored_of_passed {step : Step} {result : ActionResult} {name : String} (store : Store)
    (hpassed : result.status = .passed) (hname : step.result = some name) :
    stored step result store = store.insert name (result.data.getD .null) := by
  rw [stored, hname]
  exact if_pos hpassed

theorem stored_congr {step : Step} {result result' : ActionResult}
    (hstatus : result.status = result'.status) (hdata : result.data = result'.data)
    (store : Store) : stored step result store = stored step result' store := by
  rw [stored, hstatus, hdata, stored]

/-- The assignment is seen unless the name had that value. -/
theorem stored_ne_iff {step : Step} {result : ActionResult} {store : Store} :
    stored step result store ≠ store ↔
      result.status = .passed ∧ ∃ name, step.result = some name ∧
        store.get? name ≠ some (result.data.getD .null) := by
  by_cases hpassed : result.status = .passed
  · cases hname : step.result with
    | none => simp [stored, hname]
    | some name => simp [stored_of_passed store hpassed hname, OrderedMap.insert_eq_self_iff,
        hpassed]
  · simp [stored_of_not_passed store hpassed, hpassed]

/-- The details that are completed leave status and data alone. -/
theorem concluded_result (e : Engine σ) (step : Step) (frame : Option LoopFrame)
    (result : ActionResult) (store : Store) :
    (e.concluded step frame result store).1.status = result.status ∧
      (e.concluded step frame result store).1.data = result.data := by
  obtain ⟨outcome, data⟩ := result
  unfold concluded
  cases outcome with
  | passed => cases step.result <;> exact ⟨rfl, rfl⟩
  | failed failure => cases e.diagnoseInputs step store <;> exact ⟨rfl, rfl⟩
  | error | skipped => exact ⟨rfl, rfl⟩

theorem concluded_stored (e : Engine σ) (step : Step) (frame : Option LoopFrame)
    (result : ActionResult) (store : Store) :
    (e.concluded step frame result store).2.2 = stored step result store := by
  obtain ⟨outcome, data⟩ := result
  unfold concluded stored
  cases outcome with
  | passed => cases step.result <;> rfl
  | failed failure => cases e.diagnoseInputs step store <;> cases step.result <;> rfl
  | error | skipped => cases step.result <;> rfl

variable {e : Engine σ} {step : Step} {p : Progress σ}

theorem attempt_of_call_none (h : e.call? step p = none) (frame : Option LoopFrame) :
    (e.attempt step frame p).1.status = .error ∧ (e.attempt step frame p).2 = p := by
  unfold attempt
  unfold call? at h
  cases haction : step.action with
  | none => exact ⟨rfl, rfl⟩
  | some name =>
      rw [haction, Option.map_eq_none_iff, Option.bind_some] at h
      dsimp only
      rw [h]
      exact ⟨rfl, rfl⟩

/-- The row of an attempt is what the engine concludes from the call and the
extraction. -/
theorem attempt_of_call {call : ActionCall σ} (h : e.call? step p = some call)
    (frame : Option LoopFrame) :
    let q := call.after p
    let out := e.extracted step (call.result p) q.store q.state
    (e.attempt step frame p).1.result = (e.concluded step frame out.1 out.2.2.1).1 ∧
      (e.attempt step frame p).2.store = (e.concluded step frame out.1 out.2.2.1).2.2 ∧
      (e.attempt step frame p).2.state = out.2.2.2 := by
  unfold call? at h
  obtain ⟨action, haction, rfl⟩ := Option.map_eq_some_iff.mp h
  obtain ⟨name, hname, hget⟩ := Option.bind_eq_some_iff.mp haction
  unfold attempt
  rw [hname]
  dsimp only
  rw [hget]
  exact ⟨rfl, rfl, rfl⟩

/-- An attempt leaves what its calls leave, with the data of a row that
passed under the name of the result. -/
theorem attempt_store (e : Engine σ) (step : Step) (frame : Option LoopFrame)
    (p : Progress σ) :
    let out := e.attempt step frame p
    let left := e.called step p
    out.2.store = stored step out.1.result left.store ∧ out.2.state = left.state := by
  intro out left
  cases hcall : e.call? step p with
  | none =>
      obtain ⟨hstatus, hsame⟩ := attempt_of_call_none hcall frame
      have hleft : left = p := by
        show afterAll (e.calls step p) p = p
        rw [calls, hcall]
        rfl
      have hfailed : out.1.result.status ≠ .passed := by
        rw [show out.1.result.status = .error from hstatus]
        exact nofun
      rw [hleft, stored_of_not_passed p.store hfailed, show out.2 = p from hsame]
      exact ⟨rfl, rfl⟩
  | some call =>
      obtain ⟨hresult, hstore, hstate⟩ := attempt_of_call hcall frame
      have hleft :
          left = afterAll (e.extractionCall? step (call.result p)).toList (call.after p) := by
        show afterAll (e.calls step p) p = _
        rw [calls, hcall]
        rfl
      have hafter := e.extracted_after step (call.result p) (call.after p)
      dsimp only at hresult hstore hstate hafter
      rw [← hleft] at hafter
      obtain ⟨hstatus, hdata⟩ := e.concluded_result step frame
        (e.extracted step (call.result p) (call.after p).store (call.after p).state).1 left.store
      rw [hafter] at hresult hstore hstate
      rw [← hresult] at hstatus hdata
      refine ⟨?_, hstate⟩
      rw [show out.2.store = _ from hstore, concluded_stored]
      exact (stored_congr hstatus hdata left.store).symm

/-- **What an attempt writes.** An attempt leaves the variables as the calls
of its action and of a query leave them; the engine assigns to exactly one
name, that of the result, if the row passed, and to none otherwise. Without
an action to call nothing changes at all. What is extracted from a pass
takes the place of the data; if that fails the row is an error with the data
that the action gave. Any other row has the status and the data of the
action. -/
theorem attempt_writes (e : Engine σ) (step : Step) (frame : Option LoopFrame)
    (p : Progress σ) :
    let row := (e.attempt step frame p).1
    let q := (e.attempt step frame p).2
    let left := e.called step p
    let data := row.result.data.getD .null
    (q.store ≠ left.store ↔
      row.status = .passed ∧ ∃ name, step.result = some name ∧ left.store.get? name ≠ some data) ∧
    (∀ name, row.status = .passed → step.result = some name →
      q.store = left.store.insert name data) ∧
    (row.status ≠ .passed ∨ step.result = none → q.store = left.store) ∧
    (e.call? step p = none → row.status = .error ∧ q = p) ∧
    ∀ call, e.call? step p = some call →
      let result := call.result p
      (result.status ≠ .passed ∨ step.extract = none →
        row.status = result.status ∧ row.result.data = result.data) ∧
      ∀ spec, result.status = .passed → step.extract = some spec →
        let given := result.data.getD .null
        let run := spec.run e.catalog given (call.after p).store (call.after p).state
        (∀ value, run.1 = .ok value →
          row.status = .passed ∧ row.result.data = some value) ∧
        ∀ error, run.1 = .error error →
          row.status = .error ∧ row.result.data = some given := by
  intro row q left data
  obtain ⟨hstore, -⟩ := e.attempt_store step frame p
  have hstore : q.store = stored step row.result left.store := hstore
  refine ⟨?_, fun name hpassed hname => ?_, fun hnone => ?_,
    fun hcall => attempt_of_call_none hcall frame, fun call hcall => ?_⟩
  · rw [hstore]
    exact stored_ne_iff
  · rw [hstore]
    exact stored_of_passed left.store hpassed hname
  · rw [hstore]
    rcases hnone with hstatus | hname
    · exact stored_of_not_passed left.store hstatus
    · rw [stored, hname]
  · intro result
    obtain ⟨hresult, -, -⟩ := attempt_of_call hcall frame
    have hkept := e.concluded_result step frame
      (e.extracted step result (call.after p).store (call.after p).state).1
      (e.extracted step result (call.after p).store (call.after p).state).2.2.1
    rw [← show row.result = _ from hresult] at hkept
    refine ⟨fun hnone => ?_, fun spec hpassed hextract => ?_⟩
    · rw [e.extracted_of_none (Step.extraction?_eq_none_iff.mpr hnone)] at hkept
      exact hkept
    · have hspec := Step.extraction?_eq_some_iff.mpr ⟨hpassed, hextract⟩
      rw [(e.extracted_of_some hspec _ _).1] at hkept
      refine ⟨fun value hvalue => ?_, fun error herror => ?_⟩
      · rw [hvalue] at hkept
        exact hkept
      · rw [herror] at hkept
        exact hkept

end Engine

end Scenario
