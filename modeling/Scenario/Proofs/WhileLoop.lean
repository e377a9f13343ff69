import Scenario.Proofs.Dispatch

/-!
# The iterations of a `while` loop

Before every iteration a `while` loop asks its condition in the store that
the iteration before left, then whether its limit is reached; after every
iteration it asks for a fault. So there are four ways to end
(`WhileStart.End`): the condition is false, it cannot be evaluated, it holds
although the limit is reached, or an iteration ends in a fault.

`WhileStart.before` and `WhileStart.run` are the states and the runs of the
iterations as they follow one another, whether or not the loop gets that
far; `WhileStart.Runs` says how far it gets. That the loop makes just these
iterations and ends in one of the four ways is `iterations_end`, by
induction on how many iterations the limit still allows. Main statement:
`Engine.whileLoop_iterations`.
-/

namespace Scenario

variable {σ : Type}

/-- A `while` loop before its first iteration. -/
structure WhileStart (σ : Type) where
  engine : Engine σ
  step : Step
  condition : String
  progress : Progress σ

namespace WhileStart

variable (w : WhileStart σ)

/-- How many iterations the loop may make. -/
def limit : Nat :=
  w.engine.limits.loopLimit w.step.maxIterations

/-- What the loop repeats. -/
def body : Runner σ :=
  w.engine.core w.step (w.engine.childrenOf w.step)

/-- The iteration counted from zero, from a state. -/
def pass (k : Nat) (p : Progress σ) : StepRun × Progress σ :=
  w.engine.iteration w.step w.body (w.engine.whileFrame w.condition w.limit k p.store) p

/-- The state before an iteration, after all iterations before it. -/
def before : Nat → Progress σ
  | 0 => w.progress
  | k + 1 => (w.pass k (before k)).2

/-- The run of an iteration, after all iterations before it. -/
def run (k : Nat) : StepRun :=
  (w.pass k (w.before k)).1

/-- The condition before an iteration. -/
def answer (k : Nat) : Except ConditionError Bool :=
  Condition.evaluate w.engine.env (w.before k).store w.condition

/-- The loop makes an iteration and goes on after it, if it gets there. -/
def Goes (k : Nat) : Prop :=
  w.answer k = .ok true ∧ (w.run k).error = none

/-- The loop gets to an iteration and makes it. -/
def Runs (k : Nat) : Prop :=
  k < w.limit ∧ (∀ j < k, w.Goes j) ∧ w.answer k = .ok true

/-- The rows of the first iterations. -/
def rows (n : Nat) : List Row :=
  (List.range n).flatMap fun k => (w.run k).rows

theorem rows_succ (n : Nat) : w.rows (n + 1) = w.rows n ++ (w.run n).rows := by
  rw [rows, List.range_succ, List.flatMap_append, List.flatMap_singleton]
  rfl

theorem run_rows_length (k : Nat) : (w.run k).rows.length = 1 := by
  obtain ⟨row, hrow⟩ := w.engine.iteration_rows w.step
    (w.engine.core_rows w.step (w.engine.childrenOf w.step))
    (w.engine.whileFrame w.condition w.limit k (w.before k).store) (w.before k)
  exact congrArg List.length hrow

theorem rows_length (n : Nat) : (w.rows n).length = n := by
  induction n with
  | zero => rfl
  | succ n ih => rw [rows_succ, List.length_append, ih, run_rows_length]

/-- The position of the last of the first iterations, if there was one. -/
def lastFrame (n : Nat) : Option LoopFrame :=
  if n = 0 then none
  else some (w.engine.whileFrame w.condition w.limit (n - 1) (w.before n).store)

/-- The fault of a condition that cannot be evaluated. -/
def unevaluableFault (n : Nat) (error : ConditionError) : Fault :=
  w.engine.conditionFault w.step w.condition error (w.before n).store (w.lastFrame n)

/-- The fault of a condition that still holds. -/
def exceededFault (n : Nat) : Fault :=
  w.engine.maxIterationsFault w.step w.condition w.limit (w.lastFrame n)

/-! ## The next iteration -/

theorem check_eq (k : Nat) :
    w.engine.check w.step w.condition (w.before k).store (w.lastFrame k) =
      (w.answer k).mapError fun error => w.step.faultRow (w.unevaluableFault k error) := by
  cases hanswer : w.answer k with
  | ok holds => exact Engine.check_eq_ok_iff.mpr hanswer
  | error error => exact Engine.check_eq_error_iff.mpr ⟨error, hanswer, rfl⟩

/-- The iterations after the first `completed`, at most `remaining` more. -/
def iterations (remaining completed : Nat) : StepRun × Progress σ :=
  w.engine.whileIterations w.step w.body w.condition w.limit remaining completed
    (w.rows completed).reverse (w.before completed)

/-- The condition is asked first, then the limit, and then whether the
iteration ended in a fault. -/
theorem iterations_eq (remaining k : Nat) :
    w.iterations remaining k =
      match w.answer k, remaining with
      | .error error, _ =>
        (⟨w.rows k ++ [w.step.faultRow (w.unevaluableFault k error)],
          some (w.unevaluableFault k error)⟩, w.before k)
      | .ok false, _ => (⟨w.rows k, none⟩, w.before k)
      | .ok true, 0 =>
        (⟨w.rows k ++ [w.step.faultRow (w.exceededFault k)], some (w.exceededFault k)⟩,
          w.before k)
      | .ok true, remaining + 1 =>
        match (w.run k).error with
        | some fault => (⟨w.rows (k + 1), some fault⟩, w.before (k + 1))
        | none => w.iterations remaining (k + 1) := by
  have hcheck := w.check_eq k
  have hlast : (if k = 0 then none
      else some (w.engine.whileFrame w.condition w.limit (k - 1) (w.before k).store)) =
      w.lastFrame k := rfl
  have hpass : w.engine.iteration w.step w.body
      (w.engine.whileFrame w.condition w.limit k (w.before k).store) (w.before k) =
      (w.run k, w.before (k + 1)) := rfl
  have hdone : (w.run k).rows.reverse ++ (w.rows k).reverse = (w.rows (k + 1)).reverse := by
    rw [rows_succ, List.reverse_append]
  have hreverse (row : Row) : (row :: (w.rows k).reverse).reverse = w.rows k ++ [row] := by
    rw [List.reverse_cons, List.reverse_reverse]
  cases remaining with
  | zero =>
      rw [iterations, Engine.whileIterations, hlast, hcheck]
      rcases w.answer k with error | _ | _ <;> dsimp only [Except.mapError]
      · rw [hreverse]
        rfl
      · rw [List.reverse_reverse]
      · rw [hreverse]
        rfl
  | succ remaining =>
      rw [iterations, Engine.whileIterations, hlast, hcheck]
      rcases w.answer k with error | _ | _ <;> dsimp only [Except.mapError]
      · rw [hreverse]
        rfl
      · rw [List.reverse_reverse]
      · rw [hpass]
        dsimp only
        rw [hdone]
        cases (w.run k).error with
        | none => rfl
        | some fault => rw [List.reverse_reverse]

/-! ## How the iterations end -/

/-- The loop ends after some iterations, with its run and its last state. -/
inductive End : Nat → StepRun × Progress σ → Prop
  /-- The condition is false. -/
  | finished {n : Nat} (hgoes : ∀ k < n, w.Goes k) (hle : n ≤ w.limit)
      (hanswer : w.answer n = .ok false) : End n (⟨w.rows n, none⟩, w.before n)
  /-- The condition cannot be evaluated. -/
  | unevaluable {n : Nat} {error : ConditionError} (hgoes : ∀ k < n, w.Goes k)
      (hle : n ≤ w.limit) (hanswer : w.answer n = .error error) :
      End n
        (⟨w.rows n ++ [w.step.faultRow (w.unevaluableFault n error)],
          some (w.unevaluableFault n error)⟩, w.before n)
  /-- The condition still holds at the limit. -/
  | exceeded {n : Nat} (hgoes : ∀ k < n, w.Goes k) (heq : n = w.limit)
      (hanswer : w.answer n = .ok true) :
      End n
        (⟨w.rows n ++ [w.step.faultRow (w.exceededFault n)], some (w.exceededFault n)⟩,
          w.before n)
  /-- The last iteration ends in a fault. -/
  | faulty {n : Nat} {fault : Fault} (hgoes : ∀ k < n, w.Goes k) (hlt : n < w.limit)
      (hanswer : w.answer n = .ok true) (hfault : (w.run n).error = some fault) :
      End (n + 1) (⟨w.rows (n + 1), some fault⟩, w.before (n + 1))

variable {w}

/-- Whatever remains of the loop ends in one of these ways. -/
theorem iterations_end {remaining completed : Nat} (hlimit : completed + remaining = w.limit)
    (hgoes : ∀ k < completed, w.Goes k) : ∃ n, w.End n (w.iterations remaining completed) := by
  -- `completed + remaining` stays the limit, so it is reached when none remains
  induction remaining generalizing completed with
  | zero =>
      rw [iterations_eq]
      rcases hanswer : w.answer completed with error | _ | _
      · exact ⟨completed, .unevaluable hgoes (by omega) hanswer⟩
      · exact ⟨completed, .finished hgoes (by omega) hanswer⟩
      · exact ⟨completed, .exceeded hgoes (by omega) hanswer⟩
  | succ remaining ih =>
      rw [iterations_eq]
      rcases hanswer : w.answer completed with error | _ | _
      · exact ⟨completed, .unevaluable hgoes (by omega) hanswer⟩
      · exact ⟨completed, .finished hgoes (by omega) hanswer⟩
      · dsimp only
        cases hfault : (w.run completed).error with
        | some fault => exact ⟨completed + 1, .faulty hgoes (by omega) hanswer hfault⟩
        | none =>
            refine ih (by omega) fun k hk => ?_
            rcases Nat.lt_succ_iff_lt_or_eq.mp hk with hearlier | rfl
            · exact hgoes k hearlier
            · exact ⟨hanswer, hfault⟩

/-- If an iteration runs, so do all before it. -/
theorem Runs.of_le {j k : Nat} (h : w.Runs k) (hle : j ≤ k) : w.Runs j := by
  rcases Nat.lt_or_eq_of_le hle with hlt | rfl
  · exact ⟨Nat.lt_trans hlt h.1, fun i hi => h.2.1 i (Nat.lt_trans hi hlt), (h.2.1 j hlt).1⟩
  · exact h

theorem runs_of_goes {n : Nat} (hgoes : ∀ k < n, w.Goes k) (hle : n ≤ w.limit) :
    ∀ k < n, w.Runs k := fun k hk =>
  ⟨Nat.lt_of_lt_of_le hk hle, fun j hj => hgoes j (Nat.lt_trans hj hk), (hgoes k hk).1⟩

namespace End

variable {n : Nat} {r : StepRun × Progress σ}

/-- The way in which the loop ends fixes which iterations run. -/
theorem lt_iff_runs (h : w.End n r) (k : Nat) : k < n ↔ w.Runs k := by
  suffices hn : (∀ k < n, w.Runs k) ∧ ¬w.Runs n from
    ⟨hn.1 k, fun hk => Nat.lt_of_not_le fun hle => hn.2 (hk.of_le hle)⟩
  cases h with
  | finished hgoes hle hanswer =>
      refine ⟨runs_of_goes hgoes hle, fun hruns => ?_⟩
      cases hanswer.symm.trans hruns.2.2
  | unevaluable hgoes hle hanswer =>
      refine ⟨runs_of_goes hgoes hle, fun hruns => ?_⟩
      cases hanswer.symm.trans hruns.2.2
  | exceeded hgoes heq hanswer =>
      exact ⟨runs_of_goes hgoes (Nat.le_of_eq heq), fun hruns => Nat.ne_of_lt hruns.1 heq⟩
  | faulty hgoes hlt hanswer hfault =>
      refine ⟨fun k hk => Runs.of_le ⟨hlt, hgoes, hanswer⟩ (Nat.le_of_lt_succ hk), fun hruns => ?_⟩
      cases hfault.symm.trans (hruns.2.1 _ (Nat.lt_succ_self _)).2

theorem progress_eq (h : w.End n r) : r.2 = w.before n := by
  cases h <;> rfl

/-- A loop ends without a fault when its condition is false. -/
theorem error_eq_none_iff (h : w.End n r) :
    r.1.error = none ↔ (∀ k < n, (w.run k).error = none) ∧ w.answer n = .ok false := by
  cases h with
  | finished hgoes hle hanswer => exact iff_of_true rfl ⟨fun k hk => (hgoes k hk).2, hanswer⟩
  | unevaluable hgoes hle hanswer => simp [hanswer]
  | exceeded hgoes heq hanswer => simp [hanswer]
  | faulty hgoes hlt hanswer hfault =>
      refine iff_of_false (Option.some_ne_none _) fun hcalm => ?_
      cases hfault.symm.trans (hcalm.1 _ (Nat.lt_succ_self _))

/-- What follows the rows of the iterations: at most one row, of a fault,
and one for the limit if the condition still holds there. -/
theorem rows_eq (h : w.End n r) :
    ∃ extra : List Row, r.1.rows = w.rows n ++ extra ∧ extra.length ≤ 1 ∧
      (r.1.error = none → extra = []) ∧
      ((∃ row ∈ extra, ∃ fault, row.result.outcome = .error fault ∧
          fault.code = Code.maxIterationsExceeded) ↔
        n = w.limit ∧ (∀ k < n, (w.run k).error = none) ∧ w.answer n = .ok true) := by
  cases h with
  | finished hgoes hle hanswer => exact ⟨[], by simp, by simp, fun _ => rfl, by simp [hanswer]⟩
  | @unevaluable _ error hgoes hle hanswer =>
      have hcode : (w.unevaluableFault n error).code = Code.invalidCondition := by
        rw [unevaluableFault, Engine.conditionFault, Fault.locate_code, Fault.explain_code]
        rfl
      have hne : Code.invalidCondition ≠ Code.maxIterationsExceeded := by decide +kernel
      refine ⟨[_], rfl, Nat.le_refl 1, nofun,
        iff_of_false ?_ fun hcalm => by simp [hanswer] at hcalm⟩
      rintro ⟨row, hrow, fault, houtcome, hexceeded⟩
      rw [List.mem_singleton.mp hrow] at houtcome
      obtain rfl : w.unevaluableFault n error = fault := Outcome.error.inj houtcome
      exact hne (hcode.symm.trans hexceeded)
  | exceeded hgoes heq hanswer =>
      have hcode : (w.exceededFault n).code = Code.maxIterationsExceeded :=
        Fault.locate_code _ _ _
      refine ⟨[_], rfl, Nat.le_refl 1, nofun,
        iff_of_true ?_ ⟨heq, fun k hk => (hgoes k hk).2, hanswer⟩⟩
      exact ⟨_, List.mem_singleton_self _, _, rfl, hcode⟩
  | faulty hgoes hlt hanswer hfault =>
      refine ⟨[], by simp, by simp, fun _ => rfl, iff_of_false (by simp) fun hcalm => ?_⟩
      cases hfault.symm.trans (hcalm.2.1 _ (Nat.lt_succ_self _))

/-- Without any row the loop was over before its first iteration. -/
theorem error_of_rows_nil (h : w.End n r) (hrows : r.1.rows = []) : r.1.error = none := by
  cases h with
  | finished hgoes hle hanswer => rfl
  | unevaluable hgoes hle hanswer => simp at hrows
  | exceeded hgoes heq hanswer => simp at hrows
  | @faulty n fault hgoes hlt hanswer hfault =>
      have hlength := w.rows_length (n + 1)
      rw [show w.rows (n + 1) = [] from hrows] at hlength
      cases hlength

end End

/-- A loop, given by its run and its last state, makes `n` iterations, and
the rows `extra` follow theirs. -/
structure Makes (w : WhileStart σ) (n : Nat) (extra : List Row) (loop : StepRun × Progress σ) :
    Prop where
  /-- An iteration runs if it is within the limit, all iterations before it
  have run and ended without a fault, and the condition holds in the store
  that they left. -/
  lt_iff : ∀ k, k < n ↔
    k < w.limit ∧ (∀ j < k, w.answer j = .ok true ∧ (w.run j).error = none) ∧
      w.answer k = .ok true
  /-- The iterations leave what the loop leaves, but for its variables. -/
  progress_eq : loop.2 =
    { w.before n with store := w.progress.store.restoreLoopVariables (w.before n).store }
  rows_eq : loop.1.rows =
    if n = 0 ∧ extra = [] then [Engine.emptyLoopRow w.step .whileTrue] else w.rows n ++ extra
  /-- Every iteration has one row. -/
  run_rows_length : ∀ k < n, (w.run k).rows.length = 1
  extra_length_le : extra.length ≤ 1
  /-- The row that says that the limit is exceeded is there if no iteration
  ended in a fault, all that are allowed have run, and the condition still
  holds. -/
  exceeded_iff :
    (∃ row ∈ extra, ∃ fault, row.result.outcome = .error fault ∧
        fault.code = Code.maxIterationsExceeded) ↔
      n = w.limit ∧ (∀ k < n, (w.run k).error = none) ∧ w.answer n = .ok true
  /-- The loop ends without a fault if no iteration ended in one and the
  condition is then false, at the limit or before it. -/
  error_eq_none_iff :
    loop.1.error = none ↔ (∀ k < n, (w.run k).error = none) ∧ w.answer n = .ok false
  /-- Without an iteration and without a fault there is one row. -/
  skipped : n = 0 → loop.1.error = none → ∃ row, loop.1.rows = [row] ∧ row.status = .skipped

end WhileStart

namespace Engine

theorem runner_of_while {e : Engine σ} {step : Step} {condition : String}
    (hfor : step.forEach = none) (hwhile : step.whileTrue = some condition)
    (frame : Option LoopFrame) (p : Progress σ) :
    e.runner step frame p =
      let w : WhileStart σ := ⟨e, step, condition, p⟩
      let r := w.iterations w.limit 0
      (if r.1.rows.isEmpty then .ofRow (emptyLoopRow step .whileTrue) else r.1,
        { r.2 with store := p.store.restoreLoopVariables r.2.store }) := by
  rw [runner_eq, dispatch_eq, hfor, hwhile]
  exact e.whileLoop_eq step condition _ p

/-- **The iterations of a `while` loop.** Every `while` loop makes a number
of iterations that the condition, the faults and the limit fix, with one
row for each and at most one row more (`WhileStart.Makes`). The limit lies
between one and ten thousand, and no step raises it above that of the
run. -/
theorem whileLoop_iterations (e : Engine σ) (step : Step) (frame : Option LoopFrame)
    (p : Progress σ) {condition : String} (hfor : step.forEach = none)
    (hwhile : step.whileTrue = some condition) :
    let w : WhileStart σ := ⟨e, step, condition, p⟩
    (1 ≤ w.limit ∧ w.limit ≤ 10000 ∧
      w.limit ≤ Limits.clamp e.limits.maxLoopIterations 1 Limits.ceiling) ∧
    ∃ (n : Nat) (extra : List Row), w.Makes n extra (e.runner step frame p) := by
  intro w
  refine ⟨⟨Limits.one_le_loopLimit _ _, Limits.loopLimit_le _ _, Limits.loopLimit_le_top _ _⟩, ?_⟩
  obtain ⟨n, hend⟩ := WhileStart.iterations_end (w := w) (Nat.zero_add w.limit)
    fun k hk => absurd hk (Nat.not_lt_zero k)
  obtain ⟨extra, hrows, hlength, hcalm, hexceeded⟩ := hend.rows_eq
  have hloop : e.runner step frame p = _ := runner_of_while hfor hwhile frame p
  have hempty : (w.iterations w.limit 0).1.rows = [] ↔ n = 0 ∧ extra = [] := by
    rw [hrows, List.append_eq_nil_iff, ← List.length_eq_zero_iff, w.rows_length]
  have herror : (e.runner step frame p).1.error = (w.iterations w.limit 0).1.error := by
    rw [hloop]
    dsimp only
    split
    · next hnil => exact (hend.error_of_rows_nil (List.isEmpty_iff.mp hnil)).symm
    · rfl
  have hrowsOf : (e.runner step frame p).1.rows =
      if n = 0 ∧ extra = [] then [emptyLoopRow step .whileTrue] else w.rows n ++ extra := by
    rw [hloop, ← hrows]
    simp only [← hempty, List.isEmpty_iff]
    split <;> rfl
  refine ⟨n, extra, {
    lt_iff := hend.lt_iff_runs
    progress_eq := by rw [hloop, ← hend.progress_eq]
    rows_eq := hrowsOf
    run_rows_length := fun k _ => w.run_rows_length k
    extra_length_le := hlength
    exceeded_iff := hexceeded
    error_eq_none_iff := by rw [herror, hend.error_eq_none_iff]
    skipped := ?_ }⟩
  intro hn hnone
  rw [herror] at hnone
  rw [hrowsOf, if_pos ⟨hn, hcalm hnone⟩]
  exact ⟨_, rfl, rfl⟩

/-! ### A condition that turns false at the limit

A door that opens after some knocks, and two knocks that are allowed. -/

/-- An engine with a door that opens after some knocks. -/
def doorAfter (knocks : Nat) : Engine Nat where
  catalog := .ofList [("knock", fun _ _ store made =>
    (.passed .null, store.insert "closed" (.bool (made + 1 < knocks)), made + 1))]

def knockTwice : Step where
  name := "knock"
  action := some "knock"
  whileTrue := some "${closed}"
  maxIterations := some 2

/-- If the second knock opens the door, the loop ends without a fault,
although its limit is reached; a third one would be too many. -/
theorem whileLoop_iterations_knockTwice :
    let p : Progress Nat := ⟨OrderedMap.empty.insert "closed" (.bool true), 0, []⟩
    let w : WhileStart Nat := ⟨doorAfter 2, knockTwice, "${closed}", p⟩
    let loop := (doorAfter 2).runner knockTwice none p
    let longer := (doorAfter 3).runner knockTwice none p
    knockTwice.forEach = none ∧ knockTwice.whileTrue = some "${closed}" ∧
      (loop.1.rows.length = 2 ∧ loop.1.error.isNone = true) ∧
      (longer.1.rows.length = 3 ∧
        longer.1.error.map Fault.code = some Code.maxIterationsExceeded) ∧
      (1 ≤ w.limit ∧ w.limit ≤ 10000 ∧
        w.limit ≤ Limits.clamp (doorAfter 2).limits.maxLoopIterations 1 Limits.ceiling) ∧
      ∃ (n : Nat) (extra : List Row), w.Makes n extra loop :=
  ⟨rfl, rfl, by decide +kernel, by decide +kernel,
    whileLoop_iterations (doorAfter 2) knockTwice none _ rfl rfl⟩

end Engine

end Scenario
