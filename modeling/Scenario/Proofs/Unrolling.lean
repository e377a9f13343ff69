import Scenario.Proofs.Attempts
import Scenario.Proofs.Position

/-!
# A `for` loop unrolled

A `for` loop is its step without the loop, run once for every item: bind
the variables of the loop, run the step, go on unless it ended in a fault,
and at the end give the variables back. `Engine.runEach` is that program,
over a list of items that is fixed before the first run.

The loop itself does not run the step without the loop. It asks the
condition of the step on its own, runs what is inside of it at a position,
and numbers the rows. That both come to the same is `iteration_eq_once` for
one item, by `runner_unmoved`, and `forLoop_unrolled` for all of them.
-/

namespace Scenario

variable {σ : Type}

/-- The step without its loops. -/
def Step.once (step : Step) : Step :=
  { step with forEach := none, whileTrue := none }

/-- The items that a loop runs over. -/
def LoopSpec.elements (spec : LoopSpec) : List Json :=
  (List.range spec.length).map spec.itemAt

/-- Assigns the variables of a loop for the item at a place counted from
zero. -/
def Store.bindItem (store : Store) (index : Nat) (item : Json) : Store :=
  ((store.insert "iteration" (.ofNat (index + 1))).insert "index" (.ofNat index)).insert
    "item" item

namespace StepRun

/-- Adds to the names of all rows of a run. -/
def withSuffix (suffix : String) (run : StepRun) : StepRun :=
  { run with rows := run.rows.map (Row.withSuffix suffix) }

@[simp] theorem withSuffix_error (suffix : String) (run : StepRun) :
    (run.withSuffix suffix).error = run.error := rfl

theorem unplaced_withSuffix (suffix : String) (run : StepRun) :
    (run.withSuffix suffix).unplaced = run.unplaced.withSuffix suffix := by
  simp only [withSuffix, unplaced, List.map_map, Function.comp_def, Row.unplaced_withSuffix]

/-- The rows of some runs, with the numbers of the runs after their names;
the first run is at `index`. -/
def numberedRows (runs : List StepRun) (index : Nat) : List Row :=
  (runs.zipIdx index).flatMap fun (run, i) =>
    run.rows.map (Row.withSuffix s!" (iteration {i + 1})")

theorem numberedRows_nil (index : Nat) : numberedRows [] index = [] := rfl

theorem numberedRows_cons (run : StepRun) (runs : List StepRun) (index : Nat) :
    numberedRows (run :: runs) index =
      (run.withSuffix s!" (iteration {index + 1})").rows ++ numberedRows runs (index + 1) := by
  rw [numberedRows, List.zipIdx_cons, List.flatMap_cons]
  rfl

theorem numberedRows_length {runs : List StepRun} (h : ∀ run ∈ runs, run.rows.length = 1)
    (index : Nat) : (numberedRows runs index).length = runs.length := by
  induction runs generalizing index with
  | nil => rfl
  | cons run rest ih =>
      rw [numberedRows_cons, List.length_append, List.length_cons,
        ih fun other hother => h other (List.mem_cons_of_mem _ hother), withSuffix,
        List.length_map, h run List.mem_cons_self, Nat.add_comm]

end StepRun

namespace Engine

open StepRun (numberedRows numberedRows_nil numberedRows_cons)

/-- Runs a step for one item after another, of which the first is at
`index`, and ends after a run with a fault. Gives the runs in order. -/
def runEach (e : Engine σ) (step : Step) :
    (items : List Json) → (index : Nat) → Progress σ → List StepRun × Progress σ
  | [], _, p => ([], p)
  | item :: rest, index, p =>
    let (run, q) := e.runStep step { p with store := p.store.bindItem index item }
    if run.error.isSome then ([run], q)
    else
      let (runs, q) := runEach e step rest (index + 1) q
      (run :: runs, q)

/-! ## A step without its loops

Inside of its loop a step does not ask whether it has one. -/

theorem attempt_once (e : Engine σ) (step : Step) (frame : Option LoopFrame) (p : Progress σ) :
    e.attempt step.once frame p = e.attempt step frame p := rfl

theorem attemptsFrom_once (e : Engine σ) (step : Step) (policy : RetryPolicy) (base : Duration)
    (frame : Option LoopFrame) (remaining index : Nat) (logs : List String) (p : Progress σ) :
    e.attemptsFrom step.once policy base frame remaining index logs p =
      e.attemptsFrom step policy base frame remaining index logs p := by
  induction remaining generalizing index logs p with
  | zero =>
      unfold attemptsFrom
      rw [attempt_once]
      rfl
  | succ remaining ih =>
      unfold attemptsFrom
      simp only [ih, attempt_once]
      rfl

theorem retry_once (e : Engine σ) (step : Step) (policy : RetryPolicy)
    (frame : Option LoopFrame) (p : Progress σ) :
    e.retry step.once policy frame p = e.retry step policy frame p := by
  unfold retry
  simp only [attemptsFrom_once]
  rfl

theorem core_once (e : Engine σ) (step : Step) (children : List (Step × Runner σ)) :
    e.core step.once children = e.core step children := by
  funext frame p
  rw [core_eq, core_eq]
  simp only [retry_once, attempt_once]
  rfl

theorem check_once (e : Engine σ) (step : Step) (condition : String) (store : Store)
    (frame : Option LoopFrame) :
    e.check step.once condition store frame = e.check step condition store frame := by
  have hrow : ∀ error,
      step.once.faultRow (e.conditionFault step.once condition error store frame) =
        step.faultRow (e.conditionFault step condition error store frame) := fun _ => rfl
  unfold check
  simp only [hrow]

theorem gated_once (e : Engine σ) (step : Step) (body : Runner σ) :
    e.gated step.once body = e.gated step body := by
  funext frame p
  have honlyIf : step.once.onlyIf = step.onlyIf := rfl
  unfold gated
  rw [honlyIf]
  cases step.onlyIf with
  | none => rfl
  | some condition =>
      dsimp only
      unfold conditional
      rw [check_once]
      rfl

/-- Without its loops a step runs what a loop repeats, outside of loops. -/
theorem runStep_once (e : Engine σ) (step : Step) (p : Progress σ) :
    e.runStep step.once p = e.gated step (e.core step (e.childrenOf step)) none p := by
  have hfor : step.once.forEach = none := rfl
  have hwhile : step.once.whileTrue = none := rfl
  have hchildren : e.childrenOf step.once = e.childrenOf step := rfl
  rw [runStep, runner_eq, dispatch_eq, hfor, hwhile, core_once, hchildren, ← gated_once]
  unfold gated
  cases step.once.onlyIf <;> rfl

theorem body_unmoved (e : Engine σ) (step : Step) :
    Runner.Unmoved (e.gated step (e.core step (e.childrenOf step))) := by
  refine e.gated_unmoved step (e.core_unmoved step fun child hchild => ?_)
  obtain ⟨below, -, rfl⟩ := List.mem_map.mp hchild
  exact e.runner_unmoved below

/-! ## One item -/

/-- An iteration is the step without its loops, with the number of the
iteration after the name. -/
theorem iteration_eq_once (e : Engine σ) (step : Step) (spec : LoopSpec) (condition : String)
    (index : Nat) (p : Progress σ) :
    let loop := e.iteration step (e.core step (e.childrenOf step))
      (forFrame spec condition index) p
    let byHand := e.runStep step.once
      { p with store := p.store.bindItem index (spec.itemAt index) }
    loop.1.unplaced = (byHand.1.withSuffix s!" (iteration {index + 1})").unplaced ∧
      loop.2 = byHand.2 := by
  intro loop byHand
  let bound : Progress σ := { p with store := p.store.bindItem index (spec.itemAt index) }
  obtain ⟨hrun, hend⟩ := e.body_unmoved step (forFrame spec condition index) rfl bound
  rw [← runStep_once] at hrun hend
  have hloop : loop = _ := e.iteration_eq step _ (forFrame spec condition index) p
  rw [hloop]
  refine ⟨?_, hend⟩
  rw [StepRun.unplaced_withSuffix, ← hrun, ← StepRun.unplaced_withSuffix]
  rfl

/-! ## All items -/

theorem runEach_cons (e : Engine σ) (step : Step) (item : Json) (rest : List Json)
    (index : Nat) (p : Progress σ) :
    e.runEach step (item :: rest) index p =
      let r := e.runStep step { p with store := p.store.bindItem index item }
      if r.1.error.isSome then ([r.1], r.2)
      else
        let s := e.runEach step rest (index + 1) r.2
        (r.1 :: s.1, s.2) := rfl

theorem forIterations_succ (e : Engine σ) (step : Step) (body : Runner σ) (spec : LoopSpec)
    (condition : String) (remaining index : Nat) (done : List Row) (p : Progress σ) :
    e.forIterations step body spec condition (remaining + 1) index done p =
      let r := e.iteration step body (forFrame spec condition index) p
      if r.1.error.isSome then (⟨done.reverse ++ r.1.rows, r.1.error⟩, r.2)
      else e.forIterations step body spec condition remaining (index + 1)
        (r.1.rows.reverse ++ done) r.2 := by
  rw [forIterations, ← forFrame]
  cases hfault : (e.iteration step body (forFrame spec condition index) p).1.error with
  | none => simp [hfault]
  | some fault => simp [hfault]

/-- The iterations of a loop from `index` on, and the same runs by hand. -/
theorem forIterations_eq_runEach (e : Engine σ) (step : Step) (spec : LoopSpec)
    (condition : String) (remaining index : Nat) (done : List Row) (p : Progress σ) :
    let loop := e.forIterations step (e.core step (e.childrenOf step)) spec condition remaining
      index done p
    let byHand := e.runEach step.once ((List.range' index remaining).map spec.itemAt) index p
    loop.1.rows.map Row.unplaced =
        (done.reverse ++ numberedRows byHand.1 index).map Row.unplaced ∧
      loop.1.error.map Fault.unplaced =
        (byHand.1.findSome? StepRun.error).map Fault.unplaced ∧
      loop.2 = byHand.2 := by
  induction remaining generalizing index done p with
  | zero => simp [forIterations, runEach, numberedRows]
  | succ remaining ih =>
      have honce := e.iteration_eq_once step spec condition index p
      rw [forIterations_succ, List.range'_succ, List.map_cons, runEach_cons]
      generalize e.iteration step (e.core step (e.childrenOf step))
        (forFrame spec condition index) p = here at honce ⊢
      generalize e.runStep step.once
        { p with store := p.store.bindItem index (spec.itemAt index) } = outside at honce ⊢
      obtain ⟨run, q⟩ := here
      obtain ⟨run', q'⟩ := outside
      obtain ⟨hrun, hend⟩ := honce
      obtain rfl : q = q' := hend
      dsimp only at hrun ⊢
      have hstop := StepRun.isSome_error_of_unplaced hrun
      rw [StepRun.withSuffix_error] at hstop
      have hrows : run.rows.map Row.unplaced =
          (run'.withSuffix s!" (iteration {index + 1})").rows.map Row.unplaced :=
        (StepRun.mk.inj hrun).1
      have herror : run.error.map Fault.unplaced = run'.error.map Fault.unplaced :=
        (StepRun.mk.inj hrun).2
      rw [hstop]
      cases hfault : run'.error with
      | some fault =>
          refine ⟨?_, ?_, rfl⟩
          · simp only [Option.isSome_some, if_true, numberedRows_cons, numberedRows_nil,
              List.append_nil, List.map_append, hrows]
          · simp only [Option.isSome_some, if_true, herror, List.findSome?_cons, hfault]
      | none =>
          obtain ⟨ihrows, iherror, ihend⟩ := ih (index + 1) (run.rows.reverse ++ done) q
          refine ⟨?_, ?_, ihend⟩
          · refine ihrows.trans ?_
            simp only [Option.isSome_none, Bool.false_eq_true, if_false, numberedRows_cons,
              List.reverse_append, List.reverse_reverse, List.map_append, hrows, List.append_assoc]
          · refine iherror.trans ?_
            simp only [Option.isSome_none, Bool.false_eq_true, if_false, List.findSome?_cons, hfault]

/-! ### How many runs -/

theorem runEach_length_le (e : Engine σ) (step : Step) (items : List Json) (index : Nat)
    (p : Progress σ) : (e.runEach step items index p).1.length ≤ items.length := by
  induction items generalizing index p with
  | nil => exact Nat.le_refl 0
  | cons item rest ih =>
      rw [runEach_cons]
      dsimp only
      split
      · simp
      · exact Nat.succ_le_succ (ih _ _)

/-- There is a run for every item unless one ends in a fault. -/
theorem runEach_length_of_no_fault {e : Engine σ} {step : Step} {items : List Json} {index : Nat}
    {p : Progress σ} (h : (e.runEach step items index p).1.findSome? StepRun.error = none) :
    (e.runEach step items index p).1.length = items.length := by
  induction items generalizing index p with
  | nil => rfl
  | cons item rest ih =>
      rw [runEach_cons] at h ⊢
      dsimp only at h ⊢
      split at h
      · next hfault => simp [Option.isSome_iff_ne_none.mp hfault] at h
      · next hgoes =>
          rw [if_neg hgoes]
          rw [List.findSome?_cons] at h
          split at h
          · cases h
          · exact congrArg Nat.succ (ih h)

theorem runStep_once_rows (e : Engine σ) (step : Step) (p : Progress σ) :
    (e.runStep step.once p).1.rows.length = 1 := by
  rw [runStep_once]
  obtain ⟨row, hrow⟩ := e.gated_rows step (e.core_rows step (e.childrenOf step)) none p
  rw [hrow]
  rfl

theorem runEach_rows (e : Engine σ) (step : Step) (items : List Json) (index : Nat)
    (p : Progress σ) :
    ∀ run ∈ (e.runEach step.once items index p).1, run.rows.length = 1 := by
  induction items generalizing index p with
  | nil => exact fun run hrun => by cases hrun
  | cons item rest ih =>
      intro run hrun
      rw [runEach_cons] at hrun
      dsimp only at hrun
      split at hrun
      · rw [List.mem_singleton.mp hrun]
        exact e.runStep_once_rows step _
      · rcases List.mem_cons.mp hrun with rfl | hlater
        · exact e.runStep_once_rows step _
        · exact ih _ _ run hlater

theorem runner_of_for {e : Engine σ} {step : Step} {p : Progress σ} {text : String}
    {spec : LoopSpec} (hfor : step.forEach = some text)
    (hspec : LoopSpec.parse e.env p.store text = .ok spec) (hitems : 1 ≤ spec.length)
    (frame : Option LoopFrame) :
    e.runner step frame p =
      let r := e.forIterations step (e.core step (e.childrenOf step)) spec
        (p.store.substitute e.env text) spec.length 0 [] p
      (r.1, { r.2 with store := p.store.restoreLoopVariables r.2.store }) := by
  have hsome : ¬spec.isEmpty = true := by
    simp only [LoopSpec.isEmpty, beq_iff_eq]
    omega
  rw [runner_eq, dispatch_eq, hfor]
  dsimp only
  rw [forLoop, hspec]
  dsimp only
  rw [if_neg hsome]

/-- **Unrolling.** A `for` loop over at least one item leaves what its step
without loops leaves when it is run by hand for one item after another, up
to the first run with a fault, and the variables of the loop are given back
at the end. Each run has one row, and the rows of the loop are these, in
order and with their numbers, up to the entries of positions in the
contexts of faults; so is the fault. The items are those of the
specification in the first store, and all of them are run unless there is a
fault. -/
theorem forLoop_unrolled (e : Engine σ) (step : Step) (frame : Option LoopFrame)
    (p : Progress σ) {text : String} {spec : LoopSpec} (hfor : step.forEach = some text)
    (hspec : LoopSpec.parse e.env p.store text = .ok spec) (hitems : 1 ≤ spec.length) :
    let loop := e.runner step frame p
    let byHand := e.runEach step.once spec.elements 0 p
    loop.2 = { byHand.2 with store := p.store.restoreLoopVariables byHand.2.store } ∧
      loop.1.rows.map Row.unplaced = (numberedRows byHand.1 0).map Row.unplaced ∧
      loop.1.error.map Fault.unplaced = (byHand.1.findSome? StepRun.error).map Fault.unplaced ∧
      (∀ run ∈ byHand.1, run.rows.length = 1) ∧
      loop.1.rows.length = byHand.1.length ∧
      loop.1.rows.length ≤ spec.length ∧
      (loop.1.error = none → loop.1.rows.length = spec.length) := by
  intro loop byHand
  obtain ⟨hrowsOf, herrorOf, hend⟩ := e.forIterations_eq_runEach step spec
    (p.store.substitute e.env text) spec.length 0 [] p
  rw [← List.range_eq_range'] at hrowsOf herrorOf hend
  have hloop : loop = _ := runner_of_for hfor hspec hitems frame
  have hrows : loop.1.rows.map Row.unplaced = (numberedRows byHand.1 0).map Row.unplaced :=
    hloop ▸ hrowsOf
  have herror : loop.1.error.map Fault.unplaced =
      (byHand.1.findSome? StepRun.error).map Fault.unplaced := hloop ▸ herrorOf
  have hsingle : ∀ run ∈ byHand.1, run.rows.length = 1 := e.runEach_rows step _ 0 p
  have hlength : loop.1.rows.length = byHand.1.length := by
    rw [← StepRun.numberedRows_length hsingle 0, ← List.length_map (f := Row.unplaced), hrows,
      List.length_map]
  have helements : spec.elements.length = spec.length := by
    rw [LoopSpec.elements, List.length_map, List.length_range]
  refine ⟨?_, hrows, herror, hsingle, hlength, ?_, fun hnone => ?_⟩
  · rw [hloop]
    exact congrArg
      (fun q : Progress σ => { q with store := p.store.restoreLoopVariables q.store }) hend
  · rw [hlength, ← helements]
    exact e.runEach_length_le step.once spec.elements 0 p
  · rw [hnone] at herror
    rw [hlength, ← helements]
    exact runEach_length_of_no_fault (Option.map_eq_none_iff.mp herror.symm)

/-! ### A loop whose body changes what it runs over -/

/-- An engine whose action fails technically when it is called the second
time, and empties the list of guests at every call. -/
def wavering : Engine Nat where
  catalog := .ofList [("visit", fun _ _ store calls =>
    (if calls = 1 then .error ⟨.execution, "LOST", "lost the way", .empty, []⟩ else .passed .null,
      store.insert "guests" (.array []), calls + 1))]

def guests : List Json := [.string "ada", .string "bob", .string "eve"]

def visiting : Step where
  name := "visit"
  action := some "visit"
  forEach := some "$\x7bguests\x7d"

theorem parse_guests :
    LoopSpec.parse wavering.env (OrderedMap.empty.insert "guests" (.array guests))
      "$\x7bguests\x7d" = .ok (.items guests) := by
  have hreference : LoopSpec.reference? (Text.trimmed "$\x7bguests\x7d").toList =
      some "guests".toList := by decide +kernel
  have htrimmed : Text.trimmed (String.ofList "guests".toList) = "guests" := by decide +kernel
  have hname : environmentName? "guests".toList = none := by decide +kernel
  have hresolve : Store.resolve wavering.env (OrderedMap.empty.insert "guests" (.array guests))
      (String.ofList "guests".toList) = .ok (.array guests) := by
    unfold Store.resolve
    rw [htrimmed]
    dsimp only
    rw [hname]
    rfl
  unfold LoopSpec.parse
  dsimp only
  rw [hreference]
  dsimp only
  rw [hresolve]
  rfl

/-- Two of three guests are visited, although the first visit empties their
list. -/
theorem forLoop_unrolled_visiting :
    let p : Progress Nat := ⟨OrderedMap.empty.insert "guests" (.array guests), 0, []⟩
    let loop := wavering.runner visiting none p
    let byHand := wavering.runEach visiting.once (LoopSpec.items guests).elements 0 p
    visiting.forEach = some "$\x7bguests\x7d" ∧
      LoopSpec.parse wavering.env p.store "$\x7bguests\x7d" = .ok (.items guests) ∧
      1 ≤ (LoopSpec.items guests).length ∧
      loop.1.rows.length = 2 ∧
      loop.2 = { byHand.2 with store := p.store.restoreLoopVariables byHand.2.store } ∧
      loop.1.rows.map Row.unplaced = (numberedRows byHand.1 0).map Row.unplaced ∧
      loop.1.error.map Fault.unplaced = (byHand.1.findSome? StepRun.error).map Fault.unplaced ∧
      (∀ run ∈ byHand.1, run.rows.length = 1) ∧
      loop.1.rows.length = byHand.1.length ∧
      loop.1.rows.length ≤ (LoopSpec.items guests).length ∧
      (loop.1.error = none → loop.1.rows.length = (LoopSpec.items guests).length) :=
  ⟨rfl, parse_guests, by decide, by decide +kernel,
    forLoop_unrolled wavering visiting none _ rfl parse_guests (by decide)⟩

end Engine

end Scenario
