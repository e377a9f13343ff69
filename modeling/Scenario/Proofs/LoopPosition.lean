import Scenario.Proofs.EventRows
import Scenario.Proofs.FaultContext

/-!
# Where faults say they arose

A fault that arises in a loop carries the position: the kind of the loop,
the iteration, and its index. A step that is run at a position hands it to
its condition, its group, its attempts and its retry policy, and all of them
write it into their faults. A loop does not hand it on. What goes wrong in
an inner loop after its first iteration has begun carries the position in
the inner loop; what goes wrong before that (`Engine.FailsToBegin`) carries
none, and where the inner loop stands in the outer one is lost.

`Cause.frame?` is the position that a cause is handed. If there is one, the
fault of the cause carries a position (`Cause.hasPosition`). A run that is
given a position reports no other causes with faults, apart from inner loops
that fail to begin (`eventsOf_placedIn`, by induction on the step).
-/

namespace Scenario

variable {σ : Type}

namespace Fault

/-- The fault carries a position in a loop. -/
def HasPosition (fault : Fault) : Prop :=
  ∃ (kind : LoopKind) (index : Nat),
    fault.context.get? "loop_type" = some (.string kind.label) ∧
      fault.context.get? "iteration" = some (.ofNat (index + 1)) ∧
      fault.context.get? "index" = some (.ofNat index)

theorem explain_hasPosition (fault : Fault) (step : Step) (frame : LoopFrame)
    (diagnosis : Option Diagnosis) :
    ((fault.locate step (some frame)).explain diagnosis).HasPosition := by
  have hget {key : String} {value : Json} (h : (key, value) ∈ frame.context) :
      ((fault.locate step (some frame)).explain diagnosis).context.get? key = some value :=
    get?_of_mem_replacing (List.mem_append_left _ h) fault step
  refine ⟨frame.kind, frame.index, hget ?_, hget ?_, hget ?_⟩
  · simp [LoopFrame.context]
  · simp [LoopFrame.context, LoopFrame.iteration]
  · simp [LoopFrame.context]

theorem locate_hasPosition (fault : Fault) (step : Step) (frame : LoopFrame) :
    (fault.locate step (some frame)).HasPosition :=
  fault.explain_hasPosition step frame none

theorem not_hasPosition_of_get? {fault : Fault} (h : fault.context.get? "loop_type" = none) :
    ¬fault.HasPosition := by
  rintro ⟨kind, index, htype, -⟩
  rw [h] at htype
  cases htype

end Fault

/-! ## Causes at a position -/

/-- The position that a cause was handed. -/
def Cause.frame? : Cause σ → Option LoopFrame
  | unevaluable _ _ _ frame | exceeded _ _ frame | attempted frame _ | retried _ frame _ => frame
  | skipped _ _ | emptyLoop _ | unreadable _ _ => none

namespace Engine

/-- A result that is concluded with a fault had one. -/
theorem concluded_error {e : Engine σ} {step : Step} {frame : Option LoopFrame}
    {result : ActionResult} {store : Store} {fault : Fault}
    (h : (e.concluded step frame result store).1.outcome = .error fault) :
    ∃ given, result.outcome = .error given ∧
      fault = (given.locate step frame).explain (e.diagnoseInputs step store) := by
  obtain ⟨outcome, data⟩ := result
  unfold concluded at h
  cases outcome with
  | error given =>
      cases h
      exact ⟨given, rfl, rfl⟩
  | passed =>
      cases hname : step.result <;> rw [hname] at h <;> cases h
  | failed failure =>
      cases hdiagnosis : e.diagnoseInputs step store <;> rw [hdiagnosis] at h <;> cases h
  | skipped => cases h

theorem attempt_hasPosition (e : Engine σ) (step : Step) (frame : LoopFrame) (p : Progress σ)
    {fault : Fault} (h : (e.attempt step (some frame) p).1.result.outcome = .error fault) :
    fault.HasPosition := by
  unfold attempt at h
  split at h
  · cases h
    exact Fault.locate_hasPosition _ step frame
  · split at h
    · cases h
      exact Fault.locate_hasPosition _ step frame
    · obtain ⟨given, -, rfl⟩ := concluded_error h
      exact given.explain_hasPosition step frame _

theorem attemptsFrom_hasPosition (e : Engine σ) (step : Step) (policy : RetryPolicy)
    (base : Duration) (frame : LoopFrame) {remaining index : Nat} {logs : List String}
    {p : Progress σ} {fault : Fault}
    (h : (e.attemptsFrom step policy base (some frame) remaining index logs p).1.result.outcome =
      .error fault) : fault.HasPosition := by
  induction remaining generalizing index logs p with
  | zero =>
      unfold attemptsFrom at h
      dsimp only at h
      split at h
      · cases h
        exact Fault.locate_hasPosition _ step frame
      · exact e.attempt_hasPosition step frame p h
      · exact e.attempt_hasPosition step frame p h
  | succ remaining ih =>
      unfold attemptsFrom at h
      dsimp only at h
      split at h
      · cases h
        exact Fault.locate_hasPosition _ step frame
      · exact e.attempt_hasPosition step frame p h
      · exact ih h

theorem retry_hasPosition (e : Engine σ) (step : Step) (policy : RetryPolicy) (frame : LoopFrame)
    (p : Progress σ) {fault : Fault}
    (h : (e.retry step policy (some frame) p).1.result.outcome = .error fault) :
    fault.HasPosition := by
  unfold retry at h
  split at h
  · cases h
    exact Fault.locate_hasPosition _ step frame
  · exact e.attemptsFrom_hasPosition step policy _ frame h

end Engine

/-- What goes wrong at a position says so. -/
theorem Cause.hasPosition (e : Engine σ) (step : Step) {cause : Cause σ} {frame : LoopFrame}
    {fault : Fault} (h : (cause.row e step).result.outcome = .error fault)
    (hframe : cause.frame? = some frame) : fault.HasPosition := by
  cases cause with
  | skipped | emptyLoop | unreadable => cases hframe
  | unevaluable condition error store =>
      cases hframe
      cases h
      exact Fault.locate_hasPosition _ step frame
  | exceeded condition limit =>
      cases hframe
      cases h
      exact Fault.locate_hasPosition _ step frame
  | attempted own start =>
      cases hframe
      exact e.attempt_hasPosition step frame start h
  | retried policy own start =>
      cases hframe
      exact e.retry_hasPosition step policy frame start h

namespace Engine

/-! ## Inner loops that fail to begin -/

/-- The faults with which a loop ends before its first iteration. -/
inductive FailsToBegin (e : Engine σ) (step : Step) : Fault → Prop
  /-- The specification of a `for` loop cannot be read. -/
  | specification {text : String} {error : LoopSpecError} (store : Store)
      (hfor : step.forEach = some text) (hparse : LoopSpec.parse e.env store text = .error error) :
      FailsToBegin e step (e.forSpecFault step text error)
  /-- The condition of a `while` loop cannot be evaluated. -/
  | condition {text : String} {error : ConditionError} (store : Store)
      (hfor : step.forEach = none) (hwhile : step.whileTrue = some text)
      (herror : Condition.evaluate e.env store text = .error error) :
      FailsToBegin e step (e.conditionFault step text error store none)

theorem FailsToBegin.not_hasPosition {e : Engine σ} {step : Step} {fault : Fault}
    (h : e.FailsToBegin step fault) : ¬fault.HasPosition := by
  have hlocate (fault : Fault) (step : Step) :
      (fault.locate step none).context.get? "loop_type" = fault.context.get? "loop_type" :=
    fault.get?_locate_none (by decide) (by decide) step
  apply Fault.not_hasPosition_of_get?
  cases h with
  | specification => exact hlocate _ step
  | condition store =>
      refine (hlocate _ step).trans ?_
      cases store.diagnose e.env _ <;> rfl

/-! ## Faults of a run at a position -/

theorem exists_lastFrame (e : Engine σ) {completed : Nat} (h : 0 < completed)
    (condition : String) (limit : Nat) (store : Store) :
    ∃ frame, e.lastFrame condition limit completed store = some frame :=
  ⟨_, if_neg (Nat.ne_of_gt h)⟩

/-- The faults of an event carry a position, apart from those of loops among
some steps that fail to begin. -/
def PlacedIn (e : Engine σ) (steps : List Step) (event : Event σ) : Prop :=
  ∀ inner cause fault, (inner, cause) ∈ event.causes →
    (cause.row e inner).result.outcome = .error fault →
      fault.HasPosition ∨ inner ∈ steps ∧ e.FailsToBegin inner fault

variable {e : Engine σ} {step : Step} {steps : List Step}

theorem PlacedIn.mono {steps' : List Step} {event : Event σ} (h : e.PlacedIn steps event)
    (hsteps : steps ⊆ steps') : e.PlacedIn steps' event := by
  intro inner cause fault hcause hfault
  rcases h inner cause fault hcause hfault with hposition | ⟨hinner, hfails⟩
  · exact .inl hposition
  · exact .inr ⟨hsteps hinner, hfails⟩

theorem PlacedIn.numbered {event : Event σ} (h : e.PlacedIn steps event) (n : Nat) :
    e.PlacedIn steps (event.numbered n) := by
  intro inner cause fault hcause
  rw [Event.causes_numbered] at hcause
  exact h inner cause fault hcause

theorem placedIn_own {iteration : Option Nat} {cause : Cause σ}
    (h : ∀ fault, (cause.row e step).result.outcome = .error fault →
      fault.HasPosition ∨ step ∈ steps ∧ e.FailsToBegin step fault) :
    e.PlacedIn steps (.own step iteration cause) := by
  intro inner reason fault hcause
  obtain ⟨rfl, rfl⟩ := Event.eq_of_mem_causes hcause
  exact h fault

theorem placedIn_of_frame? {iteration : Option Nat} {cause : Cause σ} {frame : LoopFrame}
    (h : cause.frame? = some frame) : e.PlacedIn steps (.own step iteration cause) :=
  placedIn_own fun _ hfault => .inl (Cause.hasPosition e step hfault h)

theorem placedIn_group {iteration : Option Nat} {below : List (Event σ)}
    (h : ∀ event ∈ below, e.PlacedIn steps event) :
    e.PlacedIn steps (.group step iteration below) := by
  intro inner cause fault hcause
  rw [Event.causes_group] at hcause
  obtain ⟨event, hevent, hcause⟩ := List.mem_flatMap.mp hcause
  exact h event hevent inner cause fault hcause

/-- Inside of its loop a step hands its position on. -/
theorem bodyEvent_placedIn
    (hchildren : ∀ child ∈ step.steps, ∀ frame p, ∀ event ∈ e.eventsOf child (some frame) p,
      e.PlacedIn child.tree event)
    {frame : LoopFrame} {event : Event σ} (h : e.BodyEvent step (some frame) event) :
    e.PlacedIn (step.steps.flatMap Step.tree) event := by
  cases h with
  | group q =>
      refine placedIn_group fun event hevent => ?_
      obtain ⟨child, hchild, start, hevent⟩ := mem_groupEvents hevent
      have hplaced := hchildren child hchild frame start event hevent
      exact hplaced.mono fun inner hinner => List.mem_flatMap.mpr ⟨child, hchild, hinner⟩
  | retried q | attempted q | unevaluable q => exact placedIn_of_frame? rfl
  | skipped q => exact placedIn_own fun fault hfault => by cases hfault

/-- A run at a position hands it on, apart from loops that fail to begin. -/
theorem eventsOf_placedIn (e : Engine σ) (step : Step) (frame : LoopFrame) (p : Progress σ) :
    ∀ event ∈ e.eventsOf step (some frame) p, e.PlacedIn step.tree event := by
  induction step using Step.induction generalizing frame p with
  | h step ih =>
      intro event hevent
      have hbelow : step.steps.flatMap Step.tree ⊆ step.tree := by
        rw [step.tree_eq]
        exact List.subset_cons_self _ _
      cases mem_eventsOf hevent with
      | once hbody => exact (bodyEvent_placedIn ih hbody).mono hbelow
      | iteration own hbody => exact ((bodyEvent_placedIn ih hbody).mono hbelow).numbered _
      | emptyLoop kind => exact placedIn_own fun fault hfault => by cases hfault
      | unreadable q hfor hparse =>
          refine placedIn_own fun fault hfault => .inr ⟨step.self_mem_tree, ?_⟩
          cases hfault
          exact .specification q.store hfor hparse
      | unchecked completed q hfor hwhile herror =>
          rcases Nat.eq_zero_or_pos completed with rfl | hpos
          · refine placedIn_own fun fault hfault => .inr ⟨step.self_mem_tree, ?_⟩
            cases hfault
            exact .condition q.store hfor hwhile herror
          · obtain ⟨last, hlast⟩ := e.exists_lastFrame hpos _ _ q.store
            exact placedIn_of_frame? hlast
      | exceeded q hfor hwhile =>
          -- the limit is at least one, so there was an iteration
          have hlimit := e.limits.one_le_loopLimit step.maxIterations
          obtain ⟨last, hlast⟩ := e.exists_lastFrame hlimit _ _ q.store
          exact placedIn_of_frame? hlast

theorem PlacedIn.carries_iff {groups : List Step} {events : List (Event σ)} {fault : Fault}
    (h : ∀ event ∈ events, e.PlacedIn steps event)
    (hfault : fault ∈ ((events.map (Event.row e groups)).flatMap Row.leaves).filterMap Row.fault?) :
    fault.HasPosition ↔ ¬∃ inner ∈ steps, e.FailsToBegin inner fault := by
  constructor
  · rintro hposition ⟨inner, -, hfails⟩
    exact hfails.not_hasPosition hposition
  · intro hbegins
    obtain ⟨leaf, hleaf, hfault⟩ := List.mem_filterMap.mp hfault
    rw [List.flatMap_map] at hleaf
    obtain ⟨event, hevent, hleaf⟩ := List.mem_flatMap.mp hleaf
    have houtcome : leaf.result.outcome = .error fault := Row.fault?_eq_some_iff.mp hfault
    obtain ⟨inner, cause, hcause, hresult⟩ := Event.cause_of_leaf e hleaf houtcome
    rw [hresult] at houtcome
    rcases h event hevent inner cause fault hcause houtcome with hposition | ⟨hinner, hfails⟩
    · exact hposition
    · exact absurd ⟨inner, hinner, hfails⟩ hbegins

/-- **Faults of a step that is run at a position.** A fault of a leaf says
where in a loop it arose exactly if it is not that of an inner loop that
fails to begin; so for a step below the loop, and for the loop in an
iteration of its own. -/
theorem hasPosition_iff (e : Engine σ) (step : Step) (frame : LoopFrame) (p : Progress σ) :
    let rows := (e.runner step (some frame) p).1.rows
    let own := (e.iteration step (e.core step (e.childrenOf step)) frame p).1.rows
    (∀ fault ∈ (rows.flatMap Row.leaves).filterMap Row.fault?,
        fault.HasPosition ↔ ¬∃ inner ∈ step.tree, e.FailsToBegin inner fault) ∧
      ∀ fault ∈ (own.flatMap Row.leaves).filterMap Row.fault?,
        fault.HasPosition ↔
          ¬∃ inner ∈ step.steps.flatMap Step.tree, e.FailsToBegin inner fault := by
  intro rows own
  constructor
  · intro fault hfault
    have hrows : rows = (e.eventsOf step (some frame) p).map (Event.row e []) :=
      e.runner_rows step (some frame) p
    rw [hrows] at hfault
    exact PlacedIn.carries_iff (e.eventsOf_placedIn step frame p) hfault
  · intro fault hfault
    have hown : own = [e.iterationEvent step (e.groupEvents step.steps) frame p].map
        (Event.row e []) :=
      iteration_writes (core_writes fun child _ => e.runner_rows child) frame p
    rw [hown] at hfault
    refine PlacedIn.carries_iff (fun event hevent => ?_) hfault
    rw [List.mem_singleton.mp hevent]
    have hbody := e.gatedEvent_bodyEvent step (some frame) { p with store := frame.bind p.store }
    exact (bodyEvent_placedIn (fun child _ => e.eventsOf_placedIn child) hbody).numbered _

/-! ### An inner loop that fails to begin -/

/-- In the iteration of an outer loop a condition that cannot be evaluated
says where it stands. The specification and the condition of an inner loop
do not. -/
theorem inner_loop_unplaced :
    let e : Engine Unit := { catalog := .empty }
    let faults (inner : Step) :=
      let outer : Step := { name := "outer", forEach := some "1", steps := [inner] }
      let rows := (e.runStep outer ⟨.empty, (), []⟩).1.rows
      ((rows.flatMap Row.leaves).filterMap Row.fault?).map fun fault =>
        (fault.code, fault.context.keys)
    faults { name := "inner", action := some "note", onlyIf := some "x" } =
        [(Code.invalidCondition,
          ["condition", "step", "action", "loop_type", "iteration", "index", "item",
            "loop_condition"])] ∧
      faults { name := "inner", action := some "note", forEach := some "x" } =
        [(Code.invalidForSpec, ["step", "action"])] ∧
      faults { name := "inner", action := some "note", whileTrue := some "x" } =
        [(Code.invalidCondition, ["condition", "step", "action"])] := by
  decide +kernel

end Engine

end Scenario
