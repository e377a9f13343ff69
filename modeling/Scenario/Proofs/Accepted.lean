import Scenario.Proofs.Origin
import Scenario.Proofs.Reference
import Scenario.Proofs.Retrying
import Scenario.Validation

/-!
# What an accepted test case cannot meet

Validation looks at every step of a test case at any depth, and finds no
problem exactly if each of them has a name and no problem of its own
(`Validation.check_eq_ok_iff`). What a step runs, its loop specification and
the pause of its retry policy are read before a run in the way they are read
in it: a specification without references is the same loop in every store
(`LoopSpec.parse_of_plain`).

Three codes are those of a step that has nothing to run, of a specification
and of a pause that cannot be read. A row of a step has one of them only if
the step has that flaw (`Engine.OwnRow.flaw`), and a step without problems
has a flaw only in a text with references (`Engine.Flaw.has_reference`).
Since every leaf of a run is a row of some step (`Engine.runTest_sourced`),
these are the only leaves of an accepted test case with one of the codes.
Main statement: `Engine.accepted_codes`.
-/

namespace Scenario

open Scenario.Text

variable {σ : Type}

/-! ## Acceptance, step by step -/

namespace Validation

/-- A step has a name and no problem of its own. -/
def IsSound (step : Step) : Prop :=
  isBlankText step.name = false ∧ stepProblems step = []

@[simp] theorem report_eq_nil_iff {condition : Bool} {problem : String} :
    report condition problem = [] ↔ condition = false := by
  cases condition <;> simp [report]

theorem problems_eq (place : String) (step : Step) :
    problems place step =
      let label := if isBlankText step.name then place else place ++ " '" ++ step.name ++ "'"
      report (isBlankText step.name) (place ++ ": step name must not be empty") ++
        (stepProblems step).map (fun problem => label ++ ": " ++ problem) ++
        problems.problemsFrom (place ++ ".steps") 0 step.steps := by
  obtain ⟨⟩ := step
  rw [problems]

/-- Where steps stand has no part in whether they have problems. -/
theorem problemsFrom_eq_nil_iff {property : Step → Prop} {steps : List Step}
    (h : ∀ step ∈ steps, ∀ place, problems place step = [] ↔ property step) (phase : String)
    (index : Nat) :
    problems.problemsFrom phase index steps = [] ↔ ∀ step ∈ steps, property step := by
  induction steps generalizing index with
  | nil => simp [problems.problemsFrom]
  | cons step rest ih =>
      have hrest := ih (fun step hstep => h step (List.mem_cons_of_mem _ hstep)) (index + 1)
      rw [problems.problemsFrom, List.append_eq_nil_iff, hrest, h step List.mem_cons_self,
        List.forall_mem_cons]

/-- A step has no problems exactly if all steps of its tree are sound. -/
theorem problems_eq_nil_iff (step : Step) (place : String) :
    problems place step = [] ↔ ∀ inner ∈ step.tree, IsSound inner := by
  induction step using Step.induction generalizing place with
  | h step ih =>
      have hbelow := problemsFrom_eq_nil_iff ih (place ++ ".steps") 0
      rw [problems_eq, Step.tree_eq, List.forall_mem_cons, List.forall_mem_flatMap]
      simp only [List.append_eq_nil_iff, report_eq_nil_iff, List.map_eq_nil_iff, hbelow, IsSound]

/-- A test case is accepted exactly if it has a name and a step, and every
step of it is sound, in all phases and at all depths. -/
theorem check_eq_ok_iff {test : TestCase} :
    check test = .ok () ↔
      (isBlankText test.name = false ∧ test.steps ≠ []) ∧
        ∀ step ∈ test.setup ++ test.steps ++ test.teardown, ∀ inner ∈ step.tree,
          IsSound inner := by
  have hphase (phase : String) (steps : List Step) :
      problems.problemsFrom phase 0 steps = [] ↔
        ∀ step ∈ steps, ∀ inner ∈ step.tree, IsSound inner :=
    problemsFrom_eq_nil_iff (fun step _ place => problems_eq_nil_iff step place) phase 0
  have hcheck : check test = .ok () ↔ testProblems test = [] := by
    unfold check
    split
    · next hnone => exact iff_of_true rfl hnone
    · next hsome => exact iff_of_false nofun hsome
  rw [hcheck, testProblems]
  simp only [List.append_eq_nil_iff, report_eq_nil_iff, hphase, List.forall_mem_append,
    List.isEmpty_eq_false_iff, ne_eq, and_assoc]

end Validation

/-! ## Texts without references -/

theorem Validation.hasReference_iff {text : String} :
    hasReference text = true ↔ ['$', '\x7b'] <:+: text.toList :=
  occursIn_iff

theorem LoopSpec.reference?_of_not_infix {cs : List Char} (h : ¬['$', '\x7b'] <:+: cs) :
    reference? cs = none := by
  unfold reference?
  split
  · next rest => exact absurd ⟨[], rest, rfl⟩ h
  · rfl

/-- A specification without references is the same loop in every store. -/
theorem LoopSpec.parse_of_plain {text : String} (h : Validation.hasReference text = false)
    (env : Environment) (store : Store) : parse env store text = ofText (trimmed text) := by
  have hplain : ¬['$', '\x7b'] <:+: text.toList := occursIn_eq_false_iff.mp h
  have htrimmed : ¬['$', '\x7b'] <:+: (trimmed text).toList := by
    rw [trimmed, String.toList_ofList]
    exact fun hoccurs => hplain <| hoccurs.trans <| trim_infix text.toList
  rw [parse, reference?_of_not_infix htrimmed, Store.substitute_of_not_infix htrimmed]

/-! ## The codes of attempts -/

/-- The codes of what is validated before a run. -/
def Validation.codes : List String :=
  [Code.emptyStep, Code.invalidForSpec, Code.invalidRetryDelay]

/-- The action gives none of these codes itself. -/
def Action.Avoids (action : Action σ) (codes : List String) : Prop :=
  ∀ args options store state code,
    (action args options store state).1.outcome.code? = some code → code ∉ codes

/-- No action of the catalog gives one of these codes itself. -/
def Catalog.Avoids (catalog : Catalog σ) (codes : List String) : Prop :=
  ∀ name action, catalog.get? name = some action → Action.Avoids action codes

theorem Catalog.avoids_empty (codes : List String) : Catalog.Avoids (.empty : Catalog σ) codes :=
  fun _ _ h => by cases h

theorem Catalog.Avoids.insert {catalog : Catalog σ} {codes : List String}
    (h : Catalog.Avoids catalog codes) {action : Action σ} (haction : action.Avoids codes)
    (name : String) : Catalog.Avoids (catalog.insert name action) codes := by
  intro other found hfound
  rw [get?_insert] at hfound
  split at hfound
  · cases hfound
    exact haction
  · exact h other found hfound

theorem ExtractionError.toFault_code (messages : MessageTable) (kind : ExtractKind)
    (error : ExtractionError) : (error.toFault messages kind).code = error.code := by
  cases error <;> rfl

theorem ExtractionError.code_not_mem (error : ExtractionError) :
    error.code ∉ Validation.codes := by
  cases error <;> dsimp only [code] <;> decide +kernel

namespace Engine

variable {e : Engine σ} {step : Step}

/-- An extraction keeps the code of a result or gives one of its own. -/
theorem extracted_code {result : ActionResult} {store : Store} {state : σ} {code : String}
    (h : (e.extracted step result store state).1.outcome.code? = some code) :
    result.outcome.code? = some code ∨ ∃ error : ExtractionError, code = error.code := by
  unfold extracted at h
  split at h
  · next spec _ _ =>
      dsimp only at h
      split at h
      · cases h
      · next error _ _ _ =>
          refine .inr ⟨error, ?_⟩
          rw [← error.toFault_code e.messages spec.kind]
          exact (Option.some.inj h).symm
  · exact .inl h

theorem concluded_code (e : Engine σ) (step : Step) (frame : Option LoopFrame)
    (result : ActionResult) (store : Store) :
    (e.concluded step frame result store).1.outcome.code? = result.outcome.code? := by
  unfold concluded
  split
  · split <;> rfl
  · next fault hfault =>
      rw [hfault]
      exact congrArg some ((Fault.explain_code _ _).trans (Fault.locate_code _ _ _))
  · next failure hfailure =>
      split
      · rw [hfailure]
        rfl
      · rfl
  · rfl

/-! The code of a fault says which of the engine's checks it comes from. -/

theorem emptyStepFault_code (e : Engine σ) (step : Step) (frame : Option LoopFrame) :
    (e.emptyStepFault step frame).code = Code.emptyStep := by
  rw [emptyStepFault, Fault.locate_code]
  rfl

theorem unknownActionFault_code (e : Engine σ) (step : Step) (name : String)
    (frame : Option LoopFrame) :
    (e.unknownActionFault step name frame).code = Code.unknownAction := by
  rw [unknownActionFault, Fault.locate_code]
  rfl

theorem retryDelayFault_code (e : Engine σ) (step : Step) (delay : String)
    (frame : Option LoopFrame) :
    (e.retryDelayFault step delay frame).code = Code.invalidRetryDelay := by
  rw [retryDelayFault, Fault.locate_code]
  rfl

theorem conditionFault_code (e : Engine σ) (step : Step) (condition : String)
    (error : ConditionError) (store : Store) (frame : Option LoopFrame) :
    (e.conditionFault step condition error store frame).code = Code.invalidCondition := by
  rw [conditionFault, Fault.locate_code, Fault.explain_code]
  rfl

theorem forSpecFault_code (e : Engine σ) (step : Step) (text : String) (error : LoopSpecError) :
    (e.forSpecFault step text error).code = Code.invalidForSpec := by
  rw [forSpecFault, Fault.locate_code]
  rfl

theorem maxIterationsFault_code (e : Engine σ) (step : Step) (condition : String) (limit : Nat)
    (frame : Option LoopFrame) :
    (e.maxIterationsFault step condition limit frame).code = Code.maxIterationsExceeded := by
  rw [maxIterationsFault, Fault.locate_code]
  rfl

theorem code_of_fault {fault : Fault} {known code : String} (hknown : fault.code = known)
    (h : (Outcome.error fault).code? = some code) : code = known :=
  (Option.some.inj h).symm.trans hknown

/-- The row of an attempt has one of the codes only if there is no action to
attempt. -/
theorem attempt_code {codes : List String} (hcodes : codes ⊆ Validation.codes)
    (havoids : e.catalog.Avoids codes) {frame : Option LoopFrame} {p : Progress σ} {code : String}
    (hcode : (e.attempt step frame p).1.result.outcome.code? = some code)
    (hmem : code ∈ codes) : step.action = none ∧ code = Code.emptyStep := by
  unfold attempt at hcode
  split at hcode
  · next haction => exact ⟨haction, code_of_fault (e.emptyStepFault_code step frame) hcode⟩
  · next name haction =>
      exfalso
      split at hcode
      · rw [code_of_fault (e.unknownActionFault_code step name frame) hcode] at hmem
        exact absurd (hcodes hmem) (by decide +kernel)
      · next action hget =>
          -- what the engine does after the call changes no code of the action
          unfold call at hcode
          dsimp only at hcode
          rw [concluded_code] at hcode
          rcases extracted_code hcode with hown | ⟨error, rfl⟩
          · exact havoids name action hget _ _ _ _ _ hown hmem
          · exact error.code_not_mem (hcodes hmem)

/-- The row of a retry has one of the codes only if its pause cannot be read
or there is no action to attempt. -/
theorem retry_code {codes : List String} (hcodes : codes ⊆ Validation.codes)
    (havoids : e.catalog.Avoids codes) {policy : RetryPolicy} {frame : Option LoopFrame}
    {p : Progress σ} {code : String}
    (hcode : (e.retry step policy frame p).1.result.outcome.code? = some code)
    (hmem : code ∈ codes) :
    (Duration.parse? policy.delay = none ∧ code = Code.invalidRetryDelay) ∨
      (step.action = none ∧ code = Code.emptyStep) := by
  rcases e.retry_cases step policy frame p with ⟨hdelay, hunread⟩ | ⟨base, n, -, hmakes⟩
  · rw [hunread] at hcode
    exact .inl ⟨hdelay, code_of_fault (e.retryDelayFault_code step policy.delay frame) hcode⟩
  let r : RetryStart σ := ⟨e, step, policy, base, frame, p⟩
  by_cases hunevaluable : ∃ text error, r.Unevaluable n text error
  · obtain ⟨text, error, hunevaluable⟩ := hunevaluable
    obtain ⟨fault, hresult, hfault, -⟩ := hmakes.result_of_unevaluable text error hunevaluable
    rw [hresult] at hcode
    have hcondition : code = Code.invalidRetryCondition :=
      (Option.some.inj hcode).symm.trans hfault
    rw [hcondition] at hmem
    exact absurd (hcodes hmem) (by decide +kernel)
  · have hevaluable : ∀ text error, ¬r.Unevaluable n text error :=
      fun text error h => hunevaluable ⟨text, error, h⟩
    rw [hmakes.result_eq hevaluable] at hcode
    exact .inr (attempt_code hcodes havoids hcode hmem)

/-! ## Flaws -/

/-- What is wrong with a step that can have rows with a code. -/
inductive Flaw (e : Engine σ) (step : Step) : (code : String) → Prop
  /-- The step has nothing to run. -/
  | nothing (hgroup : step.hasChildren = false) (haction : step.action = none) :
      Flaw e step Code.emptyStep
  /-- Its loop specification cannot be read. -/
  | specification {text : String} {error : LoopSpecError} (store : Store)
      (hfor : step.forEach = some text) (hparse : LoopSpec.parse e.env store text = .error error) :
      Flaw e step Code.invalidForSpec
  /-- The pause of its retry policy cannot be read. -/
  | pause {policy : RetryPolicy} (hretry : step.retry = some policy)
      (hdelay : Duration.parse? policy.delay = none) : Flaw e step Code.invalidRetryDelay

/-- A row of a step has one of the codes only if the step has that flaw. -/
theorem OwnRow.flaw {row : Row} (h : e.OwnRow step row)
    (havoids : e.catalog.Avoids Validation.codes) {code : String}
    (hcode : row.result.outcome.code? = some code) (hmem : code ∈ Validation.codes) :
    e.Flaw step code := by
  cases h with
  | skipped => cases hcode
  | emptyLoop => cases hcode
  | unevaluable store frame =>
      rw [code_of_fault (e.conditionFault_code step _ _ store frame) hcode] at hmem
      exact absurd hmem (by decide +kernel)
  | unreadable store hfor hparse =>
      rw [code_of_fault (e.forSpecFault_code step _ _) hcode]
      exact .specification store hfor hparse
  | exceeded limit frame =>
      rw [code_of_fault (e.maxIterationsFault_code step _ limit frame) hcode] at hmem
      exact absurd hmem (by decide +kernel)
  | attempted frame p hgroup hretry =>
      obtain ⟨haction, rfl⟩ := attempt_code (List.Subset.refl _) havoids hcode hmem
      exact .nothing hgroup haction
  | retried frame p hgroup hretry =>
      rcases retry_code (List.Subset.refl _) havoids hcode hmem with ⟨hdelay, rfl⟩ | ⟨haction, rfl⟩
      · exact .pause hretry hdelay
      · exact .nothing hgroup haction

/-- A step without problems can have a flaw only in a text with
references. -/
theorem Flaw.has_reference {code : String} (h : e.Flaw step code)
    (hsound : Validation.IsSound step) :
    code ≠ Code.emptyStep ∧
      (code = Code.invalidForSpec →
        ∃ text, step.forEach = some text ∧ ['$', '\x7b'] <:+: text.toList) ∧
      (code = Code.invalidRetryDelay →
        ∃ policy, step.retry = some policy ∧ ['$', '\x7b'] <:+: policy.delay.toList) := by
  have hproblems := hsound.2
  simp only [Validation.stepProblems, Validation.loopProblems, List.append_eq_nil_iff] at hproblems
  obtain ⟨⟨haction, ⟨⟨-, hfor⟩, -⟩, -⟩, hretry⟩ := hproblems
  cases h with
  | nothing hgroup hnone =>
      rw [Validation.actionProblems, hgroup, hnone] at haction
      cases haction
  | @specification text error store htext hparse =>
      have hreference : Validation.hasReference text = true := by
        by_contra hplain
        have hplain := Bool.not_eq_true _ ▸ hplain
        -- without references the validator has read the same specification
        rw [LoopSpec.parse_of_plain hplain] at hparse
        rw [Validation.forProblems, htext] at hfor
        simp [hplain, LoopSpec.parse_of_plain hplain, hparse] at hfor
      exact ⟨by decide +kernel,
        fun _ => ⟨text, htext, Validation.hasReference_iff.mp hreference⟩,
        fun hcode => absurd hcode (by decide +kernel)⟩
  | @pause policy hpolicy hdelay =>
      have hreference : Validation.hasReference policy.delay = true := by
        rw [hpolicy] at hretry
        simp only [Option.map_some, Option.getD_some, Validation.retryProblems,
          List.append_eq_nil_iff, Validation.report_eq_nil_iff, hdelay, Option.isNone_none,
          Bool.and_true, Bool.not_eq_false'] at hretry
        exact hretry.1.2
      exact ⟨by decide +kernel, fun hcode => absurd hcode (by decide +kernel),
        fun _ => ⟨policy, hpolicy, Validation.hasReference_iff.mp hreference⟩⟩

/-! ## Leaves -/

/-- A leaf with one of the codes has it for a flaw of its step. -/
theorem Yields.flaw {leaf : Row} {inner : Step} (h : e.Yields step leaf inner)
    (havoids : e.catalog.Avoids Validation.codes) {code : String}
    (hcode : leaf.result.outcome.code? = some code) (hmem : code ∈ Validation.codes) :
    e.Flaw inner code := by
  obtain ⟨row, hrow, hresult⟩ := h.exists_ownRow
  rw [← hresult] at hcode
  exact hrow.flaw havoids hcode hmem

/-- **What an accepted test case cannot meet.** If a test case is accepted,
and no action gives one of the codes of validation itself, then no leaf of
its run says that a step has nothing to run. Every leaf is a row of a step
of the test case; if it says that a loop specification or the pause of a
retry policy cannot be read, then that text of the step has references. -/
theorem accepted_codes (e : Engine σ) (test : TestCase) (p : Progress σ)
    (haccepted : Validation.check test = .ok ()) (havoids : e.catalog.Avoids Validation.codes) :
    let report := (e.runTest test p).1
    let steps := test.setup ++ test.steps ++ test.teardown
    ∀ leaf ∈ (report.setup ++ report.steps ++ report.teardown).flatMap Row.leaves,
      leaf.result.outcome.code? ≠ some Code.emptyStep ∧
      (∃ step ∈ steps, ∃ inner, e.Yields step leaf inner) ∧
      ∀ step ∈ steps, ∀ inner, e.Yields step leaf inner →
        (leaf.result.outcome.code? = some Code.invalidForSpec →
          ∃ text, inner.forEach = some text ∧ ['$', '\x7b'] <:+: text.toList) ∧
        (leaf.result.outcome.code? = some Code.invalidRetryDelay →
          ∃ policy, inner.retry = some policy ∧
            ['$', '\x7b'] <:+: policy.delay.toList) := by
  intro report steps leaf hleaf
  have hsound := (Validation.check_eq_ok_iff.mp haccepted).2
  have hreference {step inner : Step} (hstep : step ∈ steps) (hyields : e.Yields step leaf inner)
      {code : String} (hcode : leaf.result.outcome.code? = some code)
      (hmem : code ∈ Validation.codes) :=
    (hyields.flaw havoids hcode hmem).has_reference (hsound step hstep inner hyields.mem_tree)
  have horigin := e.runTest_yields test p leaf hleaf
  refine ⟨fun hempty => ?_, horigin, fun step hstep inner hyields =>
    ⟨fun hfor => ?_, fun hdelay => ?_⟩⟩
  · obtain ⟨step, hstep, inner, hyields⟩ := horigin
    exact (hreference hstep hyields hempty (by decide +kernel)).1 rfl
  · exact (hreference hstep hyields hfor (by decide +kernel)).2.1 rfl
  · exact (hreference hstep hyields hdelay (by decide +kernel)).2.2 rfl

/-! ### Texts that the run cannot read -/

/-- An accepted test case with references in a pause and in a loop
specification. -/
def referring : TestCase where
  name := "case"
  setup := [{ name := "seed", action := some "boom", retry := some { delay := "$\x7bpause\x7d" } }]
  steps := [{
    name := "group"
    steps := [{ name := "each", action := some "note", forEach := some "$\x7brows\x7d" }] }]
  teardown := [{ name := "after", action := some "note", forEach := some "1..2" }]

/-- Without the variables that it refers to, the pause and the specification
cannot be read; the specification without references can. -/
theorem accepted_codes_referring :
    let report := (seeding.runTest referring ⟨.empty, (), []⟩).1
    let steps := referring.setup ++ referring.steps ++ referring.teardown
    let leaves := (report.setup ++ report.steps ++ report.teardown).flatMap Row.leaves
    (Validation.check referring = .ok () ∧ Catalog.Avoids seeding.catalog Validation.codes) ∧
      leaves.map (fun leaf => leaf.result.outcome.code?) =
        [some Code.invalidRetryDelay, some Code.invalidForSpec, none, none] ∧
      ∀ leaf ∈ leaves,
        leaf.result.outcome.code? ≠ some Code.emptyStep ∧
        (∃ step ∈ steps, ∃ inner, seeding.Yields step leaf inner) ∧
        ∀ step ∈ steps, ∀ inner, seeding.Yields step leaf inner →
          (leaf.result.outcome.code? = some Code.invalidForSpec →
            ∃ text, inner.forEach = some text ∧ ['$', '\x7b'] <:+: text.toList) ∧
          (leaf.result.outcome.code? = some Code.invalidRetryDelay →
            ∃ policy, inner.retry = some policy ∧
              ['$', '\x7b'] <:+: policy.delay.toList) := by
  intro report steps leaves
  have haccepted : Validation.check referring = .ok () := by decide +kernel
  have hboom : Action.Avoids
      (fun _ _ store state => (.error ⟨.execution, "BOOM", "boom", .empty, []⟩, store, state) :
        Action Unit) Validation.codes := by
    intro args options store state code hcode
    rw [code_of_fault rfl hcode]
    decide +kernel
  have hnote : Action.Avoids (fun _ _ store state => (.passed .null, store, state) : Action Unit)
      Validation.codes := by
    intro args options store state code hcode
    cases hcode
  have havoids : Catalog.Avoids seeding.catalog Validation.codes :=
    ((Catalog.avoids_empty _).insert hboom "boom").insert hnote "note"
  exact ⟨⟨haccepted, havoids⟩, by decide +kernel,
    accepted_codes seeding referring ⟨.empty, (), []⟩ haccepted havoids⟩

end Engine

end Scenario
