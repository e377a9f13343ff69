import Scenario.Proofs.Events

/-!
# The rows of a run are its events

Names of groups and numbers of iterations are the one thing in which rows
differ from events. A group writes its name before all rows below it, a loop
its number after the rows at the top, and the two alternate as groups and
loops nest. `Event.row` writes the row of an event at once; that a group or
a loop adds to such a row what belongs there are two equations (`row_within`,
`row_withSuffix`). So the rows of a run are its events, written outside of
all groups (`runner_rows`), and its leaves with faults are the causes of its
events (`leaf_of_cause`, `cause_of_leaf`).
-/

namespace Scenario

variable {σ : Type}

/-! ## Names -/

theorem Step.fullTitle_nil (step : Step) (iteration : Option Nat) :
    step.fullTitle [] iteration = step.title iteration :=
  String.intercalate_singleton

theorem Step.fullTitle_cons (parent : Step) (groups : List Step) (step : Step)
    (iteration : Option Nat) :
    step.fullTitle (parent :: groups) iteration =
      parent.name ++ " -> " ++ step.fullTitle groups iteration := by
  have hne : groups.map Step.name ++ [step.title iteration] ≠ [] := by simp
  exact String.intercalate_cons_of_ne_nil hne

namespace Engine

theorem attempt_name (e : Engine σ) (step : Step) (frame : Option LoopFrame)
    (p : Progress σ) : (e.attempt step frame p).1.name = step.name := by
  unfold attempt
  split
  · rfl
  · split
    · rfl
    · rfl

theorem attemptsFrom_name (e : Engine σ) (step : Step) (policy : RetryPolicy) (base : Duration)
    (frame : Option LoopFrame) (remaining index : Nat) (logs : List String) (p : Progress σ) :
    (e.attemptsFrom step policy base frame remaining index logs p).1.name = step.name := by
  have hname := e.attempt_name step frame p
  induction remaining generalizing index logs p with
  | zero =>
      unfold attemptsFrom
      dsimp only
      split
      · exact hname
      · exact hname
      · exact hname
  | succ remaining ih =>
      unfold attemptsFrom
      dsimp only
      split
      · exact hname
      · exact hname
      · exact ih _ _ _ (e.attempt_name step frame _)

theorem retry_name (e : Engine σ) (step : Step) (policy : RetryPolicy)
    (frame : Option LoopFrame) (p : Progress σ) :
    (e.retry step policy frame p).1.name = step.name := by
  unfold retry
  split
  · rfl
  · exact e.attemptsFrom_name step policy _ frame _ _ _ p

end Engine

namespace Cause

theorem row_name (e : Engine σ) (step : Step) (cause : Cause σ) :
    (cause.row e step).name = step.name := by
  cases cause with
  | attempted frame start => exact e.attempt_name step frame start
  | retried policy frame start => exact e.retry_name step policy frame start
  | skipped | unevaluable | emptyLoop | unreadable | exceeded => rfl

theorem row_children (e : Engine σ) (step : Step) (cause : Cause σ) :
    (cause.row e step).children = [] := by
  cases cause with
  | attempted frame start => exact e.attempt_children step frame start
  | retried policy frame start => exact e.retry_children step policy frame start
  | skipped | unevaluable | emptyLoop | unreadable | exceeded => rfl

end Cause

/-! ## Rows of events -/

theorem Row.within_eq (parent : String) (row : Row) :
    row.within parent =
      { row with
          name := parent ++ " -> " ++ row.name
          children := row.children.map (Row.within parent) } := by
  obtain ⟨name, action, result, logs, attempts, children⟩ := row
  rw [Row.within, Row.withinAll_eq]

namespace Event

/-- Events by induction: what holds of an event whenever it holds of the
events below it holds of every event. -/
theorem induction {motive : Event σ → Prop}
    (own : ∀ step iteration cause, motive (.own step iteration cause))
    (group : ∀ step iteration below, (∀ event ∈ below, motive event) →
      motive (.group step iteration below)) (event : Event σ) : motive event :=
  match event with
  | .own step iteration cause => own step iteration cause
  | .group step iteration below =>
    group step iteration below fun inner _ => Event.induction own group inner
termination_by sizeOf event
decreasing_by
  rename_i hinner
  have := List.sizeOf_lt_of_mem hinner
  simp only [Event.group.sizeOf_spec]
  omega

theorem rows_eq (e : Engine σ) (groups : List Step) (events : List (Event σ)) :
    row.rows e groups events = events.map (row e groups) := by
  induction events with
  | nil => rfl
  | cons event rest ih => rw [row.rows, ih, List.map_cons]

theorem row_own (e : Engine σ) (groups : List Step) (step : Step) (iteration : Option Nat)
    (cause : Cause σ) :
    (own step iteration cause).row e groups =
      { cause.row e step with name := step.fullTitle groups iteration } := by
  rw [row]

theorem row_own_children (e : Engine σ) (groups : List Step) (step : Step)
    (iteration : Option Nat) (cause : Cause σ) :
    ((own step iteration cause).row e groups).children = [] := by
  rw [row_own]
  exact cause.row_children e step

theorem row_group (e : Engine σ) (groups : List Step) (step : Step) (iteration : Option Nat)
    (below : List (Event σ)) :
    (group step iteration below).row e groups =
      { Engine.groupRow step (below.map (row e (groups ++ [step]))) with
          name := step.fullTitle groups iteration } := by
  rw [row, rows_eq]

/-- Outside of groups and loops the row of a step has the name of the
step. -/
theorem row_own_nil (e : Engine σ) (step : Step) (cause : Cause σ) :
    (own step none cause).row e [] = cause.row e step := by
  have hname : step.title none = (cause.row e step).name := (cause.row_name e step).symm
  rw [row_own, Step.fullTitle_nil]
  generalize cause.row e step = row at hname ⊢
  obtain ⟨name, action, result, logs, attempts, children⟩ := row
  rw [hname]

theorem row_group_nil (e : Engine σ) (step : Step) (below : List (Event σ)) :
    (group step none below).row e [] = Engine.groupRow step (below.map (row e [step])) := by
  rw [row_group, Step.fullTitle_nil]
  rfl

/-- A group around an event comes before the groups that are around it
already. -/
theorem row_within (e : Engine σ) (parent : Step) (groups : List Step) (event : Event σ) :
    (event.row e groups).within parent.name = event.row e (parent :: groups) := by
  induction event using Event.induction generalizing groups with
  | own step iteration cause =>
      rw [Row.within_eq, row_own, row_own, Step.fullTitle_cons]
      dsimp only
      rw [cause.row_children, List.map_nil]
  | group step iteration below ih =>
      have hbelow : (below.map (row e (groups ++ [step]))).map (Row.within parent.name) =
          below.map (row e (parent :: groups ++ [step])) := by
        rw [List.map_map]
        exact List.map_congr_left fun event hevent => ih event hevent _
      -- the outcome of a group does not depend on the names below it
      have houtcome : Engine.groupOutcome (below.map (row e (parent :: groups ++ [step]))) =
          Engine.groupOutcome (below.map (row e (groups ++ [step]))) := by
        rw [← hbelow, Row.groupOutcome_eq, Row.groupOutcome_eq, Row.firstTrouble?_within]
      rw [Row.within_eq, row_group, row_group, Step.fullTitle_cons]
      simp only [Engine.groupRow, hbelow, houtcome, List.length_map]

/-- A loop writes the number of an iteration after the name of the step, if
there are no groups around it. -/
theorem row_withSuffix (e : Engine σ) {event : Event σ} (h : event.iteration = none) (n : Nat) :
    (event.row e []).withSuffix s!" (iteration {n})" = (event.numbered n).row e [] := by
  cases event with
  | own step iteration cause =>
      obtain rfl : iteration = none := h
      rw [numbered, row_own, row_own, Step.fullTitle_nil, Step.fullTitle_nil]
      rfl
  | group step iteration below =>
      obtain rfl : iteration = none := h
      rw [numbered, row_group, row_group, Step.fullTitle_nil, Step.fullTitle_nil]
      rfl

/-! ## Leaves

The leaves below an event are the rows of its causes. -/

theorem causesOf_eq (events : List (Event σ)) :
    causes.causesOf events = events.flatMap causes := by
  induction events with
  | nil => rfl
  | cons event rest ih => rw [causes.causesOf, ih, List.flatMap_cons]

theorem causes_own (step : Step) (iteration : Option Nat) (cause : Cause σ) :
    (own step iteration cause).causes = [(step, cause)] := by
  rw [causes]

theorem eq_of_mem_causes {step owner : Step} {iteration : Option Nat} {cause own : Cause σ}
    (h : (step, cause) ∈ (Event.own owner iteration own).causes) : step = owner ∧ cause = own := by
  rw [causes_own, List.mem_singleton, Prod.mk.injEq] at h
  exact h

theorem causes_group (step : Step) (iteration : Option Nat) (below : List (Event σ)) :
    (group step iteration below).causes = below.flatMap causes := by
  rw [causes, causesOf_eq]

theorem causes_numbered (n : Nat) (event : Event σ) : (event.numbered n).causes = event.causes := by
  cases event with
  | own => rw [numbered, causes_own, causes_own]
  | group => rw [numbered, causes_group, causes_group]

/-- Every cause has a leaf. -/
theorem leaf_of_cause (e : Engine σ) (groups : List Step) {event : Event σ} {step : Step}
    {cause : Cause σ} (h : (step, cause) ∈ event.causes) :
    ∃ leaf ∈ (event.row e groups).leaves, leaf.result = (cause.row e step).result := by
  induction event using Event.induction generalizing groups with
  | own owner iteration reason =>
      obtain ⟨rfl, rfl⟩ := eq_of_mem_causes h
      have hleaf := row_own_children e groups step iteration cause
      refine ⟨_, Row.leaves_of_leaf hleaf ▸ List.mem_singleton_self _, ?_⟩
      rw [row_own]
  | group owner iteration below ih =>
      rw [causes_group] at h
      obtain ⟨event, hevent, hcause⟩ := List.mem_flatMap.mp h
      obtain ⟨leaf, hleaf, hresult⟩ := ih event hevent (groups ++ [owner]) hcause
      have hmem : event.row e (groups ++ [owner]) ∈
          ((group owner iteration below).row e groups).children := by
        rw [row_group]
        exact List.mem_map_of_mem hevent
      refine ⟨leaf, ?_, hresult⟩
      rw [Row.leaves_of_group (List.ne_nil_of_mem hmem)]
      exact List.mem_flatMap.mpr ⟨_, hmem, hleaf⟩

/-- Every leaf with a fault has a cause; the row of a group without rows
below it has no fault. -/
theorem cause_of_leaf (e : Engine σ) {groups : List Step} {event : Event σ} {leaf : Row}
    {fault : Fault} (h : leaf ∈ (event.row e groups).leaves)
    (hfault : leaf.result.outcome = .error fault) :
    ∃ step cause, (step, cause) ∈ event.causes ∧ leaf.result = (cause.row e step).result := by
  induction event using Event.induction generalizing groups with
  | own step iteration cause =>
      have hleaf := row_own_children e groups step iteration cause
      rw [Row.leaves_of_leaf hleaf, List.mem_singleton, row_own] at h
      exact ⟨step, cause, by rw [causes_own]; exact List.mem_singleton_self _, by rw [h]⟩
  | group step iteration below ih =>
      have hchildren : ((group step iteration below).row e groups).children =
          below.map (row e (groups ++ [step])) := by
        rw [row_group]
        rfl
      by_cases hnone : below = []
      · have hleaf : ((group step iteration below).row e groups).children = [] := by
          rw [hchildren, hnone, List.map_nil]
        rw [Row.leaves_of_leaf hleaf, List.mem_singleton, row_group] at h
        rw [h, hnone] at hfault
        cases hfault
      · rw [Row.leaves_of_group (by rw [hchildren]; simpa using hnone), hchildren,
          List.flatMap_map] at h
        obtain ⟨event, hevent, hleaf⟩ := List.mem_flatMap.mp h
        obtain ⟨inner, cause, hcause, hresult⟩ := ih event hevent hleaf
        refine ⟨inner, cause, ?_, hresult⟩
        rw [causes_group]
        exact List.mem_flatMap.mpr ⟨event, hevent, hcause⟩

end Event

/-! ## The rows of a run -/

namespace Engine

/-- The rows of a way to run a step are those of its events. -/
def Writes (e : Engine σ) (run : Runner σ)
    (events : Option LoopFrame → Progress σ → List (Event σ)) : Prop :=
  ∀ frame p, (run frame p).1.rows = (events frame p).map (Event.row e [])

/-- A way to run a step has one row, that of an event. -/
def WritesOne (e : Engine σ) (run : Runner σ)
    (event : Option LoopFrame → Progress σ → Event σ) : Prop :=
  ∀ frame p, (run frame p).1.rows = [(event frame p).row e []]

variable {e : Engine σ} {step : Step} {below : Option LoopFrame → Progress σ → List (Event σ)}

theorem coreEvent_iteration (frame : Option LoopFrame) (p : Progress σ) :
    (coreEvent step below frame p).iteration = none := by
  unfold coreEvent
  split
  · rfl
  · split
    · rfl
    · rfl

theorem gatedEvent_iteration (frame : Option LoopFrame) (p : Progress σ) :
    (e.gatedEvent step below frame p).iteration = none := by
  unfold gatedEvent
  split
  · exact coreEvent_iteration frame p
  · split
    · exact coreEvent_iteration frame p
    · rfl
    · rfl

/-- The rows that a group collects from its steps. -/
theorem runChildren_events (parent : Step) {steps : List Step}
    (hsteps : ∀ child ∈ steps, e.Writes (e.runner child) (e.eventsOf child))
    (frame : Option LoopFrame) (done : GroupRun) (p : Progress σ) :
    (runChildren parent.name (steps.map fun child => (child, e.runner child)) frame done p).1.rows =
      ((e.groupEvents steps frame p).map (Event.row e [parent])).reverse ++ done.rows := by
  induction steps generalizing done p with
  | nil => rfl
  | cons child rest ih =>
      have hrows : (e.runner child frame p).1.rows.map (Row.within parent.name) =
          (e.eventsOf child frame p).map (Event.row e [parent]) := by
        rw [hsteps child List.mem_cons_self frame p, List.map_map]
        exact List.map_congr_left fun event _ => event.row_within e parent []
      have hrest := ih fun other hother => hsteps other (List.mem_cons_of_mem _ hother)
      rw [List.map_cons, runChildren, groupEvents, eventsOf.groupEvents]
      dsimp only
      rw [hrows]
      split
      · rw [List.append_nil]
      · rw [hrest, List.map_append, List.reverse_append, List.append_assoc]

theorem core_writes
    (hbelow : ∀ child ∈ step.steps, e.Writes (e.runner child) (e.eventsOf child)) :
    e.WritesOne (e.core step (e.childrenOf step)) (coreEvent step (e.groupEvents step.steps)) := by
  intro frame p
  rw [core_eq, coreEvent]
  split
  · have hrows := runChildren_events step hbelow frame {} p
    rw [List.append_nil] at hrows
    rw [group_eq, Event.row_group_nil]
    dsimp only [GroupRun.toRun]
    rw [childrenOf, hrows, List.reverse_reverse]
  · cases step.retry with
    | some policy =>
        dsimp only
        rw [Event.row_own_nil]
        rfl
    | none =>
        dsimp only
        rw [Event.row_own_nil]
        rfl

theorem gated_writes {body : Runner σ} (hbody : e.WritesOne body (coreEvent step below)) :
    e.WritesOne (e.gated step body) (e.gatedEvent step below) := by
  intro frame p
  unfold gated gatedEvent
  cases step.onlyIf with
  | none => exact hbody frame p
  | some condition =>
      dsimp only
      unfold conditional
      cases hanswer : Condition.evaluate e.env p.store condition with
      | ok holds =>
          rw [check_eq_ok_iff.mpr hanswer]
          cases holds with
          | true => exact hbody frame p
          | false => rw [Event.row_own_nil]; rfl
      | error error =>
          rw [check_eq_error_iff.mpr ⟨error, hanswer, rfl⟩, Event.row_own_nil]
          rfl

theorem iteration_writes {body : Runner σ} (hbody : e.WritesOne body (coreEvent step below))
    (frame : LoopFrame) (p : Progress σ) :
    (e.iteration step body frame p).1.rows = [(e.iterationEvent step below frame p).row e []] := by
  rw [iteration_eq]
  dsimp only
  rw [gated_writes hbody, List.map_singleton, Event.row_withSuffix e (gatedEvent_iteration _ _),
    iterationEvent]

/-- The rows before an iteration are kept the latest first. -/
theorem forIterations_writes
    (hcore : e.WritesOne (e.core step (e.childrenOf step)) (coreEvent step below))
    (spec : LoopSpec) (condition : String) (remaining index : Nat) (done : List Row)
    (p : Progress σ) :
    (e.forIterations step (e.core step (e.childrenOf step)) spec condition remaining index
        done p).1.rows =
      done.reverse ++
        (e.forEvents step below spec condition remaining index p).map (Event.row e []) := by
  induction remaining generalizing index done p with
  | zero => rw [forEvents, List.map_nil, List.append_nil]; rfl
  | succ remaining ih =>
      have hrow := iteration_writes hcore (forFrame spec condition index) p
      rw [forIterations, forEvents, ← forFrame]
      dsimp only
      rw [hrow]
      cases (e.iteration step (e.core step (e.childrenOf step))
        (forFrame spec condition index) p).1.error with
      | some fault => simp
      | none =>
          dsimp only
          rw [ih]
          simp

/-- A check of the condition, before what follows if it holds. -/
theorem check_writes {condition : String} {last : Option LoopFrame} {done : List Row}
    {p : Progress σ} {goOn : StepRun × Progress σ} {next : List (Event σ)}
    (hnext : goOn.1.rows = done.reverse ++ next.map (Event.row e [])) :
    (match e.check step condition p.store last with
      | .error row => ((⟨(row :: done).reverse, row.result.outcome.fault?⟩, p) : StepRun × Progress σ)
      | .ok false => (⟨done.reverse, none⟩, p)
      | .ok true => goOn).1.rows =
      done.reverse ++
        (e.checkEvents step condition p.store last next).map (Event.row e []) := by
  unfold checkEvents
  cases hanswer : Condition.evaluate e.env p.store condition with
  | ok holds =>
      rw [check_eq_ok_iff.mpr hanswer]
      cases holds with
      | true => exact hnext
      | false => rw [List.map_nil, List.append_nil]
  | error error =>
      rw [check_eq_error_iff.mpr ⟨error, hanswer, rfl⟩, List.map_singleton, Event.row_own_nil]
      exact List.reverse_cons

theorem whileIterations_writes
    (hcore : e.WritesOne (e.core step (e.childrenOf step)) (coreEvent step below))
    (condition : String) (limit remaining completed : Nat) (done : List Row) (p : Progress σ) :
    (e.whileIterations step (e.core step (e.childrenOf step)) condition limit remaining completed
        done p).1.rows =
      done.reverse ++
        (e.whileEvents step below condition limit remaining completed p).map (Event.row e []) := by
  induction remaining generalizing completed done p with
  | zero =>
      unfold whileIterations
      rw [whileEvents]
      refine check_writes ?_
      rw [List.map_singleton, Event.row_own_nil]
      exact List.reverse_cons
  | succ remaining ih =>
      have hrow := iteration_writes hcore (e.whileFrame condition limit completed p.store) p
      unfold whileIterations
      rw [whileEvents]
      refine check_writes ?_
      dsimp only
      rw [hrow]
      cases (e.iteration step (e.core step (e.childrenOf step))
        (e.whileFrame condition limit completed p.store) p).1.error with
      | some fault => simp
      | none =>
          dsimp only
          rw [ih]
          simp

theorem dispatch_writes
    (hbelow : ∀ child ∈ step.steps, e.Writes (e.runner child) (e.eventsOf child)) :
    e.Writes (e.dispatch step (e.childrenOf step))
      (e.dispatchEvents step (e.groupEvents step.steps)) := by
  have hcore := core_writes hbelow
  intro frame p
  rw [dispatch_eq, dispatchEvents]
  cases hfor : step.forEach with
  | some text =>
      dsimp only
      unfold forLoop
      cases LoopSpec.parse e.env p.store text with
      | error error => simp [StepRun.ofRow, Event.row_own_nil, Cause.row]
      | ok spec =>
          dsimp only
          split
          · simp [StepRun.ofRow, Event.row_own_nil, Cause.row]
          · exact forIterations_writes hcore spec _ _ 0 [] p
  | none =>
      cases hwhile : step.whileTrue with
      | some condition =>
          have hrows := whileIterations_writes hcore condition
            (e.limits.loopLimit step.maxIterations) (e.limits.loopLimit step.maxIterations) 0 [] p
          rw [List.reverse_nil, List.nil_append] at hrows
          dsimp only
          rw [whileLoop_eq]
          dsimp only
          rw [hrows, List.isEmpty_map]
          split
          · simp [StepRun.ofRow, Event.row_own_nil, Cause.row]
          · exact hrows
      | none =>
          have hgated := gated_writes hcore frame p
          dsimp only
          rw [List.map_singleton, ← hgated]
          unfold gated
          cases step.onlyIf <;> rfl

/-- **The rows of a run are its events.** -/
theorem runner_rows (e : Engine σ) (step : Step) : e.Writes (e.runner step) (e.eventsOf step) := by
  induction step using Step.induction with
  | h step ih =>
      rw [runner_eq, eventsOf_eq]
      exact dispatch_writes ih

end Engine

end Scenario
