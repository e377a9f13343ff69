import Scenario.Proofs.Fault

/-!
# What a position in a loop adds to a run

A run is told its position in the innermost loop, and writes it into the
contexts of faults. Nothing else depends on it: no condition, no decision
of a retry and no action looks there, so two runs of a step at different
positions do the same to the variables and give the same rows, up to the
entries of the positions.

`unplaced` takes the entries of a position in a `for` loop out of a fault,
and out of all faults in a row and below it. Two facts carry the
induction. All that a run decides by is kept by `unplaced`
(`decide_unplaced`, `isTrouble_unplaced`), and faults that arise at a
position agree without its entries (`unplaced_locate`). Main statement: a
step runs at any position in a `for` loop as it runs outside of loops
(`runner_unmoved`).
-/

namespace Scenario

/-! ## Leaving out entries of a map -/

namespace OrderedMap

variable {β : Type}

/-- The entries with other names, in their order. -/
def without (names : List String) (m : OrderedMap β) : OrderedMap β :=
  ⟨m.entries.filter fun e => decide (e.1 ∉ names), nodup_filter _ m.nodup⟩

theorem filter_put_of_mem {names : List String} {name : String} (h : name ∈ names) (value : β)
    (entries : List (String × β)) :
    (put name value entries).filter (fun e => decide (e.1 ∉ names)) =
      entries.filter fun e => decide (e.1 ∉ names) := by
  induction entries with
  | nil => simp [put, h]
  | cons e rest ih =>
      obtain ⟨key, old⟩ := e
      by_cases hkey : key = name
      · simp [put, hkey, h]
      · rw [put, if_neg hkey, List.filter_cons, List.filter_cons, ih]

theorem filter_put_of_not_mem {names : List String} {name : String} (h : name ∉ names)
    (value : β) (entries : List (String × β)) :
    (put name value entries).filter (fun e => decide (e.1 ∉ names)) =
      put name value (entries.filter fun e => decide (e.1 ∉ names)) := by
  induction entries with
  | nil => simp [put, h]
  | cons e rest ih =>
      obtain ⟨key, old⟩ := e
      by_cases hkey : key = name
      · simp [put, hkey, h]
      · rw [put, if_neg hkey, List.filter_cons, List.filter_cons, ih]
        split
        · rw [put, if_neg hkey]
        · rfl

theorem without_insert_of_mem {names : List String} {name : String} (h : name ∈ names)
    (m : OrderedMap β) (value : β) : (m.insert name value).without names = m.without names := by
  simp only [without, insert, filter_put_of_mem h]

theorem without_insert_of_not_mem {names : List String} {name : String} (h : name ∉ names)
    (m : OrderedMap β) (value : β) :
    (m.insert name value).without names = (m.without names).insert name value := by
  simp only [without, insert, filter_put_of_not_mem h]

theorem without_insertAll {names : List String} {pairs : List (String × β)}
    (h : ∀ e ∈ pairs, e.1 ∈ names) (m : OrderedMap β) :
    (m.insertAll pairs).without names = m.without names := by
  unfold insertAll
  induction pairs generalizing m with
  | nil => rfl
  | cons e rest ih =>
      rw [List.foldl_cons, ih fun other hother => h other (List.mem_cons_of_mem _ hother),
        without_insert_of_mem (h e List.mem_cons_self)]

theorem lookup_filter_of_not_mem {names : List String} {name : String} (h : name ∉ names)
    (entries : List (String × β)) :
    lookup name (entries.filter fun e => decide (e.1 ∉ names)) = lookup name entries := by
  induction entries with
  | nil => rfl
  | cons e rest ih =>
      obtain ⟨key, value⟩ := e
      by_cases hkey : key = name
      · simp [lookup, hkey, h]
      · rw [List.filter_cons, lookup, if_neg hkey]
        split
        · rw [lookup, if_neg hkey, ih]
        · exact ih

theorem get?_without {names : List String} {name : String} (h : name ∉ names)
    (m : OrderedMap β) : (m.without names).get? name = m.get? name :=
  lookup_filter_of_not_mem h m.entries

end OrderedMap

/-! ## Faults and rows without positions -/

/-- The names of the entries that a position in a `for` loop adds to the
context of a fault. -/
def forContextNames : List String :=
  ["loop_type", "iteration", "index", "item", "loop_condition"]

theorem LoopFrame.context_names {frame : LoopFrame} (h : frame.maxIterations = none) :
    ∀ e ∈ frame.context, e.1 ∈ forContextNames := by
  have hnames : ∀ name ∈ frame.context.map Prod.fst, name ∈ forContextNames := by
    unfold context
    rw [h]
    cases frame.item <;> cases frame.condition <;>
      simp only [Option.map_none, Option.map_some, Option.toList_none, Option.toList_some,
        List.map_append, List.map_cons, List.map_nil] <;> decide
  exact fun e he => hnames e.1 (List.mem_map_of_mem he)

namespace Fault

/-- A fault without the entries of a position in a `for` loop. -/
def unplaced (fault : Fault) : Fault :=
  { fault with context := fault.context.without forContextNames }

theorem unplaced_locate {frame : LoopFrame} (h : frame.maxIterations = none) (fault : Fault)
    (step : Step) : (fault.locate step (some frame)).unplaced = (fault.locate step none).unplaced := by
  have hcontext := (fault.locate step none).context.without_insertAll (LoopFrame.context_names h)
  exact congrArg (fun context => { fault.locate step none with context }) hcontext

theorem unplaced_explain (fault : Fault) (diagnosis : Option Diagnosis) :
    (fault.explain diagnosis).unplaced = fault.unplaced.explain diagnosis := by
  cases diagnosis with
  | none => rfl
  | some d =>
      have hcontext := fault.context.without_insert_of_not_mem
        (by decide : "variable_context" ∉ forContextNames) d.toJson
      exact congrArg
        (fun context =>
          ({ fault with context, suggestions := fault.suggestions ++ d.suggestions } : Fault))
        hcontext

end Fault

/-- An outcome without positions in `for` loops. -/
def Outcome.unplaced : Outcome → Outcome
  | .error fault => .error fault.unplaced
  | outcome => outcome

@[simp] theorem Outcome.unplaced_status (outcome : Outcome) :
    outcome.unplaced.status = outcome.status := by
  cases outcome <;> rfl

theorem Outcome.unplaced_fault? (outcome : Outcome) :
    outcome.unplaced.fault? = outcome.fault?.map Fault.unplaced := by
  cases outcome <;> rfl

/-- A result without positions in `for` loops. -/
def ActionResult.unplaced (result : ActionResult) : ActionResult :=
  { result with outcome := result.outcome.unplaced }

namespace Row

/-- A row without positions in `for` loops: all faults of the row and of
the rows below it lose their entries. -/
def unplaced : Row → Row
  | ⟨name, action, result, logs, attempts, children⟩ =>
    ⟨name, action, result.unplaced, logs, attempts, unplacedAll children⟩
where
  unplacedAll : List Row → List Row
    | [] => []
    | row :: rows => row.unplaced :: unplacedAll rows

theorem unplacedAll_eq (rows : List Row) : unplaced.unplacedAll rows = rows.map unplaced := by
  induction rows with
  | nil => rfl
  | cons row rows ih => rw [unplaced.unplacedAll, ih, List.map_cons]

theorem unplaced_eq (row : Row) :
    row.unplaced =
      { row with result := row.result.unplaced, children := row.children.map unplaced } := by
  obtain ⟨name, action, result, logs, attempts, children⟩ := row
  rw [unplaced, unplacedAll_eq]

@[simp] theorem unplaced_status (row : Row) : row.unplaced.status = row.status := by
  rw [unplaced_eq]
  exact row.result.outcome.unplaced_status

@[simp] theorem isTrouble_unplaced (row : Row) : row.unplaced.isTrouble = row.isTrouble := by
  unfold isTrouble
  rw [unplaced_status]

theorem status_eq_of_unplaced {row row' : Row} (h : row.unplaced = row'.unplaced) :
    row.status = row'.status := by
  rw [← row.unplaced_status, h, unplaced_status]

theorem logs_eq_of_unplaced {row row' : Row} (h : row.unplaced = row'.unplaced) :
    row.logs = row'.logs := by
  rw [unplaced_eq, unplaced_eq] at h
  exact (Row.mk.inj h).2.2.2.1

theorem result_eq_of_unplaced {row row' : Row} (h : row.unplaced = row'.unplaced) :
    row.result.unplaced = row'.result.unplaced := by
  rw [unplaced_eq, unplaced_eq] at h
  exact (Row.mk.inj h).2.2.1

/-- What a retry adds to the row of an attempt is not about its position. -/
theorem unplaced_retried {row row' : Row} (h : row.unplaced = row'.unplaced) (attempts : Nat)
    (logs : List String) :
    Row.unplaced { row with attempts, logs } = Row.unplaced { row' with attempts, logs } := by
  rw [unplaced_eq, unplaced_eq] at h ⊢
  exact congrArg (fun row => { row with attempts, logs }) h

theorem unplaced_retried_error {row row' : Row} (h : row.unplaced = row'.unplaced)
    {fault fault' : Fault} (hfault : fault.unplaced = fault'.unplaced) (attempts : Nat)
    (logs : List String) :
    Row.unplaced { row with attempts, logs, result := .error fault } =
      Row.unplaced { row' with attempts, logs, result := .error fault' } := by
  have hresult : (ActionResult.error fault).unplaced = (ActionResult.error fault').unplaced :=
    congrArg ActionResult.error hfault
  rw [unplaced_eq, unplaced_eq] at h ⊢
  dsimp only
  rw [hresult]
  exact congrArg
    (fun row => { row with attempts, logs, result := (ActionResult.error fault').unplaced }) h

theorem unplaced_withSuffix (suffix : String) (row : Row) :
    (row.withSuffix suffix).unplaced = row.unplaced.withSuffix suffix := by
  rw [unplaced_eq, unplaced_eq]
  rfl

theorem unplaced_within (parent : String) (row : Row) :
    (row.within parent).unplaced = row.unplaced.within parent := by
  induction row using Row.induction with
  | h row ih =>
      obtain ⟨name, action, result, logs, attempts, children⟩ := row
      have hchildren : (children.map (Row.within parent)).map unplaced =
          (children.map unplaced).map (Row.within parent) := by
        rw [List.map_map, List.map_map]
        exact List.map_congr_left ih
      rw [within, withinAll_eq, unplaced_eq, unplaced_eq, within, withinAll_eq, hchildren]

end Row

theorem Engine.groupOutcome_unplaced (rows : List Row) :
    groupOutcome (rows.map Row.unplaced) = (groupOutcome rows).unplaced := by
  have hfind : (rows.map Row.unplaced).find? Row.isTrouble =
      (rows.find? Row.isTrouble).map Row.unplaced := by
    rw [List.find?_map]
    congr 2
    funext row
    exact row.isTrouble_unplaced
  unfold groupOutcome
  rw [hfind]
  cases rows.find? Row.isTrouble with
  | none => rfl
  | some row =>
      rw [Option.map_some]
      dsimp only
      rw [Row.unplaced_eq]
      rfl

/-! ## What a run decides by -/

namespace ActionResult

theorem unplaced_seeds (result : ActionResult) : result.unplaced.seeds = result.seeds := by
  obtain ⟨outcome, data⟩ := result
  cases outcome with
  | error fault =>
      have hstatus := fault.context.get?_without (by decide : "status_code" ∉ forContextNames)
      simp only [seeds, category, statusCode, unplaced, Outcome.unplaced, Outcome.code?,
        Outcome.message?, Outcome.fault?, Option.bind_some, Fault.unplaced, hstatus]
  | passed | failed | skipped => rfl

end ActionResult

theorem RetryPolicy.decide_unplaced (policy : RetryPolicy) (env : Environment)
    (result : ActionResult) (store : Store) :
    policy.decide env result.unplaced store = policy.decide env result store := by
  have hstatus : result.unplaced.status = result.status := result.outcome.unplaced_status
  have hcovers : policy.coversResult result.unplaced = policy.coversResult result := by
    obtain ⟨outcome, data⟩ := result
    cases outcome <;> rfl
  have hcondition : policy.condition? env result.unplaced store =
      policy.condition? env result store := by
    unfold condition?
    rw [result.unplaced_seeds]
  unfold decide
  rw [hstatus, hcovers, hcondition]

theorem RetryPolicy.decide_eq_of_unplaced {row row' : Row} (h : row.unplaced = row'.unplaced)
    (policy : RetryPolicy) (env : Environment) (store : Store) :
    policy.decide env row.result store = policy.decide env row'.result store := by
  rw [← policy.decide_unplaced, Row.result_eq_of_unplaced h, policy.decide_unplaced]

/-! ## Runs at a position and outside of loops -/

/-- A run without positions in `for` loops. -/
def StepRun.unplaced (run : StepRun) : StepRun :=
  ⟨run.rows.map Row.unplaced, run.error.map Fault.unplaced⟩

variable {σ : Type}

/-- The body does the same at any position in a `for` loop as outside of
loops. -/
def Runner.Unmoved (body : Runner σ) : Prop :=
  ∀ frame : LoopFrame, frame.maxIterations = none → ∀ p,
    (body (some frame) p).1.unplaced = (body none p).1.unplaced ∧
      (body (some frame) p).2 = (body none p).2

theorem StepRun.unplaced_ofRow {row row' : Row} (h : row.unplaced = row'.unplaced) :
    (ofRow row).unplaced = (ofRow row').unplaced := by
  have hofRow : ∀ row : Row, (ofRow row).unplaced = ofRow row.unplaced := fun row => by
    rw [Row.unplaced_eq, unplaced, ofRow, ofRow]
    dsimp only
    rw [List.map_singleton, Row.unplaced_eq]
    exact congrArg _ (Outcome.unplaced_fault? _).symm
  rw [hofRow, hofRow, h]

theorem Row.unplaced_faultRow {fault fault' : Fault} (h : fault.unplaced = fault'.unplaced)
    (step : Step) (attempts : Nat) :
    Row.unplaced { step.faultRow fault with attempts } =
      Row.unplaced { step.faultRow fault' with attempts } := by
  have hresult : (ActionResult.error fault).unplaced = (ActionResult.error fault').unplaced :=
    congrArg ActionResult.error h
  rw [unplaced_eq, unplaced_eq]
  exact congrArg (fun result => { step.row result with attempts, children := [] }) hresult

theorem StepRun.isSome_error_of_unplaced {run run' : StepRun} (h : run.unplaced = run'.unplaced) :
    run.error.isSome = run'.error.isSome := by
  have herror : run.error.map Fault.unplaced = run'.error.map Fault.unplaced :=
    (StepRun.mk.inj h).2
  rw [← Option.isSome_map (f := Fault.unplaced), herror, Option.isSome_map]

/-- One run after another. -/
theorem StepRun.unplaced_append (run next : StepRun) :
    StepRun.unplaced ⟨run.rows ++ next.rows, run.error.or next.error⟩ =
      ⟨run.unplaced.rows ++ next.unplaced.rows, run.unplaced.error.or next.unplaced.error⟩ := by
  simp only [unplaced, List.map_append, Option.map_or]

theorem StepRun.unplaced_within (parent : String) (run : StepRun) :
    StepRun.unplaced { run with rows := run.rows.map (Row.within parent) } =
      { run.unplaced with rows := run.unplaced.rows.map (Row.within parent) } := by
  simp only [unplaced, List.map_map, Function.comp_def, Row.unplaced_within]

/-- An attempt, or several, that had the same effect and gave the same row
up to positions in `for` loops. -/
def SameAttempt (here outside : Row × Progress σ) : Prop :=
  here.1.unplaced = outside.1.unplaced ∧ here.2 = outside.2

namespace Engine

variable {frame : LoopFrame} (hframe : frame.maxIterations = none)

include hframe

/-! ### Attempts -/

theorem concluded_unplaced (e : Engine σ) (step : Step) (result : ActionResult) (store : Store) :
    (e.concluded step (some frame) result store).1.unplaced =
        (e.concluded step none result store).1.unplaced ∧
      (e.concluded step (some frame) result store).2 =
        (e.concluded step none result store).2 := by
  obtain ⟨outcome, data⟩ := result
  cases outcome with
  | error fault =>
      have hfault : ((fault.locate step (some frame)).explain (e.diagnoseInputs step store)).unplaced =
          ((fault.locate step none).explain (e.diagnoseInputs step store)).unplaced := by
        rw [Fault.unplaced_explain, Fault.unplaced_locate hframe, ← Fault.unplaced_explain]
      exact ⟨congrArg (fun fault => (⟨.error fault, data⟩ : ActionResult)) hfault, rfl⟩
  | passed | failed | skipped => exact ⟨rfl, rfl⟩

theorem call_unplaced (e : Engine σ) (step : Step) (name : String) (action : Action σ)
    (p : Progress σ) :
    SameAttempt (e.call step name action (some frame) p) (e.call step name action none p) := by
  unfold call
  dsimp only
  generalize e.extracted step _ _ _ = found
  obtain ⟨result, extraction, store, state⟩ := found
  obtain ⟨hresult, hrest⟩ := e.concluded_unplaced hframe step result store
  generalize e.concluded step (some frame) result store = here at hresult hrest ⊢
  generalize e.concluded step none result store = outside at hresult hrest ⊢
  obtain ⟨hereResult, said, stored⟩ := here
  obtain ⟨outsideResult, outsideSaid, outsideStored⟩ := outside
  obtain ⟨rfl, rfl⟩ := Prod.mk.inj hrest
  refine ⟨?_, rfl⟩
  rw [Row.unplaced_eq, Row.unplaced_eq]
  exact congrArg (fun result => (⟨step.name, name, result, extraction ++ said, 1, []⟩ : Row)) hresult

theorem attempt_unplaced (e : Engine σ) (step : Step) (p : Progress σ) :
    SameAttempt (e.attempt step (some frame) p) (e.attempt step none p) := by
  unfold attempt
  split
  · exact ⟨Row.unplaced_faultRow (Fault.unplaced_locate hframe _ step) step 1, rfl⟩
  · split
    · exact ⟨Row.unplaced_faultRow (Fault.unplaced_locate hframe _ step) step 1, rfl⟩
    · exact e.call_unplaced hframe step _ _ p

/-- One attempt of several; the decision after it is the same, so the later
attempts have to be compared only if there are any. -/
theorem attemptsFrom_unplaced_step (e : Engine σ) (step : Step) (policy : RetryPolicy)
    (base : Duration) (remaining index : Nat) (logs : List String) (p : Progress σ)
    (hlater : ∀ rest, remaining = rest + 1 → ∀ index logs p,
      SameAttempt (e.attemptsFrom step policy base (some frame) rest index logs p)
        (e.attemptsFrom step policy base none rest index logs p)) :
    SameAttempt (e.attemptsFrom step policy base (some frame) remaining index logs p)
      (e.attemptsFrom step policy base none remaining index logs p) := by
  obtain ⟨hrow, hend⟩ := e.attempt_unplaced hframe step p
  unfold attemptsFrom
  generalize e.attempt step (some frame) p = here at hrow hend ⊢
  generalize e.attempt step none p = outside at hrow hend ⊢
  obtain ⟨row, q⟩ := here
  obtain ⟨row', q'⟩ := outside
  obtain rfl : q = q' := hend
  dsimp only at hrow ⊢
  rw [policy.decide_eq_of_unplaced hrow, Row.logs_eq_of_unplaced hrow,
    Row.status_eq_of_unplaced hrow]
  cases policy.decide e.env row'.result q.store with
  | unevaluable condition error =>
      exact ⟨Row.unplaced_retried_error hrow (Fault.unplaced_locate hframe _ step) _ _, rfl⟩
  | stop => exact ⟨Row.unplaced_retried hrow _ _, rfl⟩
  | again =>
      cases remaining with
      | zero => exact ⟨Row.unplaced_retried hrow _ _, rfl⟩
      | succ rest => exact hlater rest rfl _ _ _

theorem attemptsFrom_unplaced (e : Engine σ) (step : Step) (policy : RetryPolicy)
    (base : Duration) (remaining index : Nat) (logs : List String) (p : Progress σ) :
    SameAttempt (e.attemptsFrom step policy base (some frame) remaining index logs p)
      (e.attemptsFrom step policy base none remaining index logs p) := by
  induction remaining generalizing index logs p with
  | zero =>
      exact e.attemptsFrom_unplaced_step hframe step policy base 0 index logs p
        fun rest h => by cases h
  | succ remaining ih =>
      refine e.attemptsFrom_unplaced_step hframe step policy base _ index logs p fun rest h => ?_
      obtain rfl := Nat.succ.inj h
      exact ih

theorem retry_unplaced (e : Engine σ) (step : Step) (policy : RetryPolicy) (p : Progress σ) :
    SameAttempt (e.retry step policy (some frame) p) (e.retry step policy none p) := by
  unfold retry
  split
  · exact ⟨Row.unplaced_faultRow (Fault.unplaced_locate hframe _ step) step 0, rfl⟩
  · exact e.attemptsFrom_unplaced hframe step policy _ _ _ _ p

theorem check_unplaced (e : Engine σ) (step : Step) (condition : String) (store : Store) :
    (e.check step condition store (some frame)).mapError Row.unplaced =
      (e.check step condition store none).mapError Row.unplaced := by
  unfold check
  split
  · rfl
  · exact congrArg Except.error
      (Row.unplaced_faultRow (Fault.unplaced_locate hframe _ step) step 0)

omit hframe

/-! ### Steps -/

theorem conditional_unmoved (e : Engine σ) (step : Step) (condition : String) {body : Runner σ}
    (hbody : body.Unmoved) : Runner.Unmoved (e.conditional step condition body) := by
  intro frame hframe p
  have hcheck := e.check_unplaced hframe step condition p.store
  unfold conditional
  cases hhere : e.check step condition p.store (some frame) with
  | ok holds =>
      rw [check_eq_ok_iff] at hhere
      rw [check_eq_ok_iff.mpr hhere]
      cases holds with
      | true => exact hbody frame hframe p
      | false => exact ⟨rfl, rfl⟩
  | error row =>
      cases houtside : e.check step condition p.store none with
      | ok holds => rw [hhere, houtside] at hcheck; cases hcheck
      | error row' =>
          rw [hhere, houtside] at hcheck
          exact ⟨StepRun.unplaced_ofRow (Except.error.inj hcheck), rfl⟩

theorem GroupRun.unplaced_add (parent : String) {done done' : GroupRun}
    (hdone : done.toRun.unplaced = done'.toRun.unplaced) {run run' : StepRun}
    (hrun : run.unplaced = run'.unplaced) :
    (GroupRun.toRun
        { rows := (run.rows.map (Row.within parent)).reverse ++ done.rows
          error := done.error.or run.error }).unplaced =
      (GroupRun.toRun
        { rows := (run'.rows.map (Row.within parent)).reverse ++ done'.rows
          error := done'.error.or run'.error }).unplaced := by
  have hadd : ∀ (done : GroupRun) (run : StepRun), (GroupRun.toRun
      { rows := (run.rows.map (Row.within parent)).reverse ++ done.rows
        error := done.error.or run.error }).unplaced =
      ⟨done.toRun.unplaced.rows ++ run.unplaced.rows.map (Row.within parent),
        done.toRun.unplaced.error.or run.unplaced.error⟩ := fun done run => by
    have happend :=
      done.toRun.unplaced_append { run with rows := run.rows.map (Row.within parent) }
    rw [StepRun.unplaced_within] at happend
    simpa only [GroupRun.toRun, List.reverse_append, List.reverse_reverse] using happend
  rw [hadd, hadd, hdone, hrun]

/-- The row of a group over the rows of its steps. -/
def groupRow (step : Step) (rows : List Row) : Row where
  name := step.name
  action := Step.groupLabel
  result := ⟨groupOutcome rows, none⟩
  logs := [s!"executed {rows.length} of {step.steps.length} nested step(s)"]
  attempts := 1
  children := rows

theorem group_eq (step : Step) (children : List (Step × Runner σ)) (frame : Option LoopFrame)
    (p : Progress σ) :
    group step children frame p =
      let r := runChildren step.name children frame {} p
      (⟨[groupRow step r.1.toRun.rows], r.1.toRun.error⟩, r.2) := rfl

theorem groupRow_unplaced (step : Step) (rows : List Row) :
    (groupRow step rows).unplaced = groupRow step (rows.map Row.unplaced) := by
  rw [Row.unplaced_eq]
  unfold groupRow
  rw [groupOutcome_unplaced, List.length_map]
  rfl

theorem runChildren_unmoved (parent : String) {children : List (Step × Runner σ)}
    (hchildren : ∀ child ∈ children, child.2.Unmoved) {frame : LoopFrame}
    (hframe : frame.maxIterations = none) {done done' : GroupRun}
    (hdone : done.toRun.unplaced = done'.toRun.unplaced) (p : Progress σ) :
    (runChildren parent children (some frame) done p).1.toRun.unplaced =
        (runChildren parent children none done' p).1.toRun.unplaced ∧
      (runChildren parent children (some frame) done p).2 =
        (runChildren parent children none done' p).2 := by
  induction children generalizing done done' p with
  | nil => exact ⟨hdone, rfl⟩
  | cons child rest ih =>
      obtain ⟨step, body⟩ := child
      have hbody : body.Unmoved := hchildren _ List.mem_cons_self
      obtain ⟨hrun, hend⟩ := hbody frame hframe p
      unfold runChildren
      generalize body (some frame) p = here at hrun hend ⊢
      generalize body none p = outside at hrun hend ⊢
      obtain ⟨run, q⟩ := here
      obtain ⟨run', q'⟩ := outside
      obtain rfl : q = q' := hend
      dsimp only at hrun ⊢
      have hnext := GroupRun.unplaced_add parent hdone hrun
      rw [StepRun.isSome_error_of_unplaced hrun]
      split
      · exact ⟨hnext, rfl⟩
      · exact ih (fun child hchild => hchildren child (List.mem_cons_of_mem _ hchild)) hnext q

theorem group_unmoved (step : Step) {children : List (Step × Runner σ)}
    (hchildren : ∀ child ∈ children, child.2.Unmoved) : Runner.Unmoved (group step children) := by
  intro frame hframe p
  obtain ⟨hdone, hend⟩ := runChildren_unmoved step.name hchildren hframe
    (rfl : (GroupRun.toRun {}).unplaced = _) p
  obtain ⟨hrows, herror⟩ := StepRun.mk.inj hdone
  refine ⟨?_, hend⟩
  rw [group_eq, group_eq]
  simp only [StepRun.unplaced, List.map_singleton, groupRow_unplaced, hrows, herror]

theorem core_unmoved (e : Engine σ) (step : Step)
    (hchildren : ∀ child ∈ e.childrenOf step, child.2.Unmoved) :
    Runner.Unmoved (e.core step (e.childrenOf step)) := by
  intro frame hframe p
  rw [core_eq, core_eq]
  split
  · exact group_unmoved step hchildren frame hframe p
  · split
    · next policy _ =>
        obtain ⟨hrow, hend⟩ := e.retry_unplaced hframe step policy p
        exact ⟨StepRun.unplaced_ofRow hrow, hend⟩
    · obtain ⟨hrow, hend⟩ := e.attempt_unplaced hframe step p
      exact ⟨StepRun.unplaced_ofRow hrow, hend⟩

theorem gated_unmoved (e : Engine σ) (step : Step) {body : Runner σ} (hbody : body.Unmoved) :
    Runner.Unmoved (e.gated step body) := by
  intro frame hframe p
  unfold gated
  split
  · exact hbody frame hframe p
  · exact e.conditional_unmoved step _ hbody frame hframe p

/-- A loop in a loop has positions of its own. -/
theorem dispatch_unmoved (e : Engine σ) (step : Step)
    (hchildren : ∀ child ∈ e.childrenOf step, child.2.Unmoved) :
    Runner.Unmoved (e.dispatch step (e.childrenOf step)) := by
  have hcore := e.core_unmoved step hchildren
  intro frame hframe p
  rw [dispatch_eq, dispatch_eq]
  split
  · exact ⟨rfl, rfl⟩
  · exact ⟨rfl, rfl⟩
  · exact e.conditional_unmoved step _ hcore frame hframe p
  · exact hcore frame hframe p

/-- **Positions only show in faults.** At any position in a `for` loop a
step does what it does outside of loops, and its rows and its fault are the
same up to the entries of the position. -/
theorem runner_unmoved (e : Engine σ) (step : Step) : (e.runner step).Unmoved := by
  induction step using Step.induction with
  | h step ih =>
      rw [runner_eq]
      refine e.dispatch_unmoved step fun child hchild => ?_
      obtain ⟨below, hbelow, rfl⟩ := List.mem_map.mp hchild
      exact ih below hbelow

end Engine

end Scenario
