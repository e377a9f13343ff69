import Scenario.Proofs.Dispatch

/-!
# The attempts of a run

Everything that a run does to the outside it does in attempts: there an
action is called, a query is made of its data, and a result is stored.
`Engine.attemptsOf` lists them in order, each with what it found. It
follows the run: an attempt is in the list only if the conditions,
iterations and decisions before it led there. All of them are attempts at
steps of the tree (`step_mem_of_mem_attemptsOf`).

What no attempt does, the run does not do either: apart from the names that
loops bind, the engine itself writes no variable
(`Scenario.Proofs.LoopVariables`). An attempt writes none if no action does
and its step names no result (`keepsStore_of_quiet`).
-/

namespace Scenario

variable {σ : Type}

/-- An attempt at the action of a step, with what it found. -/
structure Attempt (σ : Type) where
  step : Step
  frame : Option LoopFrame
  start : Progress σ

/-- The attempt leaves the variables as it found them. -/
def Attempt.KeepsStore (e : Engine σ) (a : Attempt σ) : Prop :=
  (e.attempt a.step a.frame a.start).2.store = a.start.store

/-- The attempts that a way to run a step makes. -/
abbrev Tracer (σ : Type) : Type :=
  Option LoopFrame → Progress σ → List (Attempt σ)

namespace Engine

/-! ## Listing attempts -/

/-- The attempts of a retry, of which `remaining` more are allowed after
the next one. -/
def retryAttempts (e : Engine σ) (step : Step) (policy : RetryPolicy) (base : Duration)
    (frame : Option LoopFrame) : (remaining index : Nat) → Progress σ → List (Attempt σ)
  | 0, _, p => [⟨step, frame, p⟩]
  | remaining + 1, index, p =>
    let (row, q) := e.attempt step frame p
    ⟨step, frame, p⟩ ::
      if policy.decide e.env row.result q.store = .again then
        retryAttempts e step policy base frame remaining (index + 1)
          { q with pauses := q.pauses ++ [policy.backoff.delayAfter base index] }
      else []

/-- The attempts of a step inside of its loop and condition. -/
def coreAttempts (e : Engine σ) (step : Step) (children : Tracer σ) : Tracer σ :=
  fun frame p =>
    if step.hasChildren then children frame p
    else
      match step.retry with
      | none => [⟨step, frame, p⟩]
      | some policy =>
        match Duration.parse? policy.delay with
        | none => []
        | some base => e.retryAttempts step policy base frame (policy.maxAttempts - 1) 0 p

/-- The attempts of a body under a condition. -/
def conditionalAttempts (e : Engine σ) (step : Step) (condition : String) (body : Tracer σ) :
    Tracer σ :=
  fun frame p =>
    match e.check step condition p.store frame with
    | .ok true => body frame p
    | _ => []

/-- The attempts of one iteration. -/
def iterationAttempts (e : Engine σ) (step : Step) (body : Tracer σ) (frame : LoopFrame)
    (p : Progress σ) : List (Attempt σ) :=
  let bound := { p with store := frame.bind p.store }
  match step.onlyIf with
  | none => body (some frame) bound
  | some condition => e.conditionalAttempts step condition body (some frame) bound

/-- The position in a `for` loop. -/
def forFrame (spec : LoopSpec) (condition : String) (index : Nat) : LoopFrame :=
  { kind := .forEach, index, item := some (spec.itemAt index), condition := some condition }

/-- The attempts of the iterations from `index` on; `run` is how the body
runs, `body` what it attempts. -/
def forAttempts (e : Engine σ) (step : Step) (run : Runner σ) (body : Tracer σ)
    (spec : LoopSpec) (condition : String) :
    (remaining index : Nat) → Progress σ → List (Attempt σ)
  | 0, _, _ => []
  | remaining + 1, index, p =>
    let frame := forFrame spec condition index
    let (done, q) := e.iteration step run frame p
    e.iterationAttempts step body frame p ++
      if done.error.isSome then []
      else forAttempts e step run body spec condition remaining (index + 1) q

/-- The attempts of the iterations after `completed` others. -/
def whileAttempts (e : Engine σ) (step : Step) (run : Runner σ) (body : Tracer σ)
    (condition : String) (limit : Nat) :
    (remaining completed : Nat) → Progress σ → List (Attempt σ)
  | 0, _, _ => []
  | remaining + 1, completed, p =>
    let last :=
      if completed = 0 then none
      else some (e.whileFrame condition limit (completed - 1) p.store)
    match e.check step condition p.store last with
    | .ok true =>
      let frame := e.whileFrame condition limit completed p.store
      let (done, q) := e.iteration step run frame p
      e.iterationAttempts step body frame p ++
        if done.error.isSome then []
        else whileAttempts e step run body condition limit remaining (completed + 1) q
    | _ => []

/-- The attempts of a step, given those of its group. -/
def dispatchAttempts (e : Engine σ) (step : Step) (children : Tracer σ) : Tracer σ :=
  fun frame p =>
    let run := e.core step (e.childrenOf step)
    let body := e.coreAttempts step children
    match step.forEach, step.whileTrue, step.onlyIf with
    | some text, _, _ =>
      match LoopSpec.parse e.env p.store text with
      | .error _ => []
      | .ok spec => e.forAttempts step run body spec (p.store.substitute e.env text) spec.length 0 p
    | none, some condition, _ =>
      let limit := e.limits.loopLimit step.maxIterations
      e.whileAttempts step run body condition limit limit 0 p
    | none, none, some condition => e.conditionalAttempts step condition body frame p
    | none, none, none => body frame p

/-- The attempts of a step and of all that is below it, in order. -/
def attemptsOf (e : Engine σ) : Step → Tracer σ
  | ⟨name, description, action, args, options, result, onlyIf, forEach, whileTrue, maxIterations,
      retry, extract, steps, continueOnFailure, critical⟩ =>
    e.dispatchAttempts
      ⟨name, description, action, args, options, result, onlyIf, forEach, whileTrue,
        maxIterations, retry, extract, steps, continueOnFailure, critical⟩
      (groupAttempts steps)
where
  groupAttempts : List Step → Tracer σ
    | [], _, _ => []
    | child :: rest, frame, p =>
      let (done, q) := e.runner child frame p
      e.attemptsOf child frame p ++
        if done.error.isSome && !child.continueOnFailure then [] else groupAttempts rest frame q

/-- The attempts of the steps of a group. -/
abbrev groupAttempts (e : Engine σ) : List Step → Tracer σ :=
  attemptsOf.groupAttempts e

theorem attemptsOf_eq (e : Engine σ) (step : Step) :
    e.attemptsOf step = e.dispatchAttempts step (e.groupAttempts step.steps) := by
  obtain ⟨⟩ := step
  rw [attemptsOf]

end Engine

/-! ## Steps of attempts -/

/-- The step and all steps below it. -/
def Step.tree : Step → List Step
  | ⟨name, description, action, args, options, result, onlyIf, forEach, whileTrue, maxIterations,
      retry, extract, steps, continueOnFailure, critical⟩ =>
    ⟨name, description, action, args, options, result, onlyIf, forEach, whileTrue,
      maxIterations, retry, extract, steps, continueOnFailure, critical⟩ :: trees steps
where
  trees : List Step → List Step
    | [] => []
    | step :: rest => step.tree ++ trees rest

namespace Step

theorem trees_eq (steps : List Step) : tree.trees steps = steps.flatMap tree := by
  induction steps with
  | nil => rfl
  | cons step rest ih => rw [tree.trees, ih, List.flatMap_cons]

theorem tree_eq (step : Step) : step.tree = step :: step.steps.flatMap tree := by
  obtain ⟨⟩ := step
  rw [tree, trees_eq]

theorem self_mem_tree (step : Step) : step ∈ step.tree := by
  rw [tree_eq]
  exact List.mem_cons_self

theorem mem_tree_of_child {step child inner : Step} (hchild : child ∈ step.steps)
    (hinner : inner ∈ child.tree) : inner ∈ step.tree := by
  rw [tree_eq]
  exact List.mem_cons_of_mem _ (List.mem_flatMap.mpr ⟨child, hchild, hinner⟩)

end Step

/-- All attempts are at steps with a property. -/
def Tracer.Only (property : Step → Prop) (trace : Tracer σ) : Prop :=
  ∀ frame p, ∀ a ∈ trace frame p, property a.step

namespace Engine

variable {e : Engine σ} {step : Step} {property : Step → Prop}

theorem step_eq_of_mem_retryAttempts {policy : RetryPolicy} {base : Duration}
    {frame : Option LoopFrame} {remaining index : Nat} {p : Progress σ} {a : Attempt σ}
    (h : a ∈ e.retryAttempts step policy base frame remaining index p) : a.step = step := by
  induction remaining generalizing index p with
  | zero => rw [List.mem_singleton.mp h]
  | succ remaining ih =>
      unfold retryAttempts at h
      dsimp only at h
      rcases List.mem_cons.mp h with rfl | hlater
      · rfl
      · split at hlater
        · exact ih hlater
        · cases hlater

theorem coreAttempts_only (hstep : property step) {children : Tracer σ}
    (hchildren : children.Only property) : (e.coreAttempts step children).Only property := by
  intro frame p a ha
  unfold coreAttempts at ha
  split at ha
  · exact hchildren frame p a ha
  · split at ha
    · rwa [List.mem_singleton.mp ha]
    · split at ha
      · cases ha
      · rwa [step_eq_of_mem_retryAttempts ha]

theorem conditionalAttempts_only {body : Tracer σ} (hbody : body.Only property)
    (condition : String) : (e.conditionalAttempts step condition body).Only property := by
  intro frame p a ha
  unfold conditionalAttempts at ha
  split at ha
  · exact hbody frame p a ha
  · cases ha

theorem iterationAttempts_only {body : Tracer σ} (hbody : body.Only property)
    {frame : LoopFrame} {p : Progress σ} :
    ∀ a ∈ e.iterationAttempts step body frame p, property a.step := by
  intro a ha
  unfold iterationAttempts at ha
  dsimp only at ha
  split at ha
  · exact hbody _ _ a ha
  · exact conditionalAttempts_only hbody _ _ _ a ha

theorem forAttempts_only {run : Runner σ} {body : Tracer σ} (hbody : body.Only property)
    {spec : LoopSpec} {condition : String} {remaining index : Nat} {p : Progress σ} :
    ∀ a ∈ e.forAttempts step run body spec condition remaining index p, property a.step := by
  intro a ha
  induction remaining generalizing index p with
  | zero => cases ha
  | succ remaining ih =>
      unfold forAttempts at ha
      rcases List.mem_append.mp ha with hfirst | hlater
      · exact iterationAttempts_only hbody a hfirst
      · exact ih (List.mem_ite_nil_left.mp hlater).2

theorem whileAttempts_only {run : Runner σ} {body : Tracer σ} (hbody : body.Only property)
    {condition : String} {limit remaining completed : Nat} {p : Progress σ} :
    ∀ a ∈ e.whileAttempts step run body condition limit remaining completed p,
      property a.step := by
  intro a ha
  induction remaining generalizing completed p with
  | zero => cases ha
  | succ remaining ih =>
      unfold whileAttempts at ha
      dsimp only at ha
      split at ha
      · rcases List.mem_append.mp ha with hfirst | hlater
        · exact iterationAttempts_only hbody a hfirst
        · exact ih (List.mem_ite_nil_left.mp hlater).2
      · cases ha

theorem dispatchAttempts_only (hstep : property step) {children : Tracer σ}
    (hchildren : children.Only property) : (e.dispatchAttempts step children).Only property := by
  have hcore : (e.coreAttempts step children).Only property :=
    coreAttempts_only hstep hchildren
  intro frame p a ha
  unfold dispatchAttempts at ha
  dsimp only at ha
  split at ha
  · split at ha
    · cases ha
    · exact forAttempts_only hcore a ha
  · exact whileAttempts_only hcore a ha
  · exact conditionalAttempts_only hcore _ frame p a ha
  · exact hcore frame p a ha

theorem groupAttempts_only {steps : List Step}
    (hsteps : ∀ child ∈ steps, (e.attemptsOf child).Only property) :
    (e.groupAttempts steps).Only property := by
  intro frame p a ha
  induction steps generalizing p with
  | nil => cases ha
  | cons child rest ih =>
      unfold groupAttempts attemptsOf.groupAttempts at ha
      rcases List.mem_append.mp ha with hfirst | hlater
      · exact hsteps child List.mem_cons_self frame p a hfirst
      · exact ih (fun other hother => hsteps other (List.mem_cons_of_mem _ hother)) _
          (List.mem_ite_nil_left.mp hlater).2

theorem attemptsOf_only {step : Step} (h : ∀ inner ∈ step.tree, property inner) :
    (e.attemptsOf step).Only property := by
  induction step using Step.induction with
  | h step ih =>
      rw [attemptsOf_eq]
      refine dispatchAttempts_only (h step step.self_mem_tree) (groupAttempts_only ?_)
      exact fun child hchild =>
        ih child hchild fun inner hinner => h inner (Step.mem_tree_of_child hchild hinner)

/-- A run attempts the actions of its own tree only. -/
theorem step_mem_of_mem_attemptsOf {frame : Option LoopFrame} {p : Progress σ} {a : Attempt σ}
    (h : a ∈ e.attemptsOf step frame p) : a.step ∈ step.tree := by
  have honly : (e.attemptsOf step).Only (· ∈ step.tree) := attemptsOf_only fun _ hinner => hinner
  exact honly frame p a h

end Engine

/-! ## Attempts that write nothing -/

/-- The action never writes to the variables. -/
def Action.KeepsStore (action : Action σ) : Prop :=
  ∀ args options store state, (action args options store state).2.1 = store

/-- No action of the catalog writes to the variables. -/
def Catalog.KeepsStore (catalog : Catalog σ) : Prop :=
  ∀ name action, catalog.get? name = some action → action.KeepsStore

theorem Action.pure_keepsStore (f : List Json → OrderedMap Json → ActionResult) :
    (Action.pure f : Action σ).KeepsStore :=
  fun _ _ _ _ => rfl

theorem Catalog.keepsStore_empty : Catalog.KeepsStore (.empty : Catalog σ) :=
  fun _ _ h => by cases h

theorem Catalog.KeepsStore.insert {catalog : Catalog σ} (h : Catalog.KeepsStore catalog)
    {action : Action σ} (haction : action.KeepsStore) (name : String) :
    Catalog.KeepsStore (catalog.insert name action) := by
  intro other found hfound
  rw [get?_insert] at hfound
  split at hfound
  · cases hfound
    exact haction
  · exact h other found hfound

theorem Extraction.run_store {catalog : Catalog σ} (hcatalog : Catalog.KeepsStore catalog)
    (spec : Extraction) (data : Json) (store : Store) (state : σ) :
    (spec.run catalog data store state).2.1 = store := by
  have hdelegate : (delegate catalog spec data store state).2.1 = store := by
    unfold delegate
    split
    · rfl
    · next action haction => exact hcatalog _ action haction _ _ store state
  unfold run
  split <;> first | exact hdelegate | rfl

namespace Engine

theorem extracted_store {e : Engine σ} (hcatalog : Catalog.KeepsStore e.catalog) (step : Step)
    (result : ActionResult) (store : Store) (state : σ) :
    (e.extracted step result store state).2.2.1 = store := by
  unfold extracted
  split
  · next spec _ _ =>
      have hrun := spec.run_store hcatalog (result.data.getD .null) store state
      dsimp only
      split
      · next hvalue => rwa [hvalue] at hrun
      · next herror => rwa [herror] at hrun
  · rfl

/-- Without a name for the result nothing is stored. -/
theorem concluded_store (e : Engine σ) {step : Step} (hresult : step.result = none)
    (frame : Option LoopFrame) (result : ActionResult) (store : Store) :
    (e.concluded step frame result store).2.2 = store := by
  unfold concluded
  rw [hresult]
  split
  · rfl
  · rfl
  · split <;> rfl
  · rfl

/-- An attempt writes nothing if no action does and its step names no
result. -/
theorem keepsStore_of_quiet {e : Engine σ} (hcatalog : Catalog.KeepsStore e.catalog)
    {a : Attempt σ} (hresult : a.step.result = none) : a.KeepsStore e := by
  unfold Attempt.KeepsStore attempt
  split
  · rfl
  · next name _ =>
      split
      · rfl
      · next action haction =>
          exact (e.concluded_store hresult _ _ _).trans
            ((extracted_store hcatalog _ _ _ _).trans (hcatalog name action haction _ _ _ _))

/-- No attempt of a run writes anything if no action does and no step below
names a result. -/
theorem attemptsOf_keepStore {e : Engine σ} (hcatalog : Catalog.KeepsStore e.catalog)
    {step : Step} (hresults : ∀ inner ∈ step.tree, inner.result = none)
    (frame : Option LoopFrame) (p : Progress σ) :
    ∀ a ∈ e.attemptsOf step frame p, a.KeepsStore e :=
  fun _ ha => keepsStore_of_quiet hcatalog (hresults _ (step_mem_of_mem_attemptsOf ha))

end Engine

end Scenario
