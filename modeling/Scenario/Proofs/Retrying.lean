import Scenario.Engine.Retry
import Scenario.Proofs.Occurrence

/-!
# When a retry ends

After every attempt at an action the rules of its retry policy are asked
whether there is another one. `RetryStart.before` and `RetryStart.attempt`
are the states and the attempts as they follow one another with the pauses
of the policy between them, whether or not the retry gets that far; each
rule is a statement about one of these attempts (`RetryStart.Satisfied`,
`Declined`, `Uncovered`, `Exhausted`).

What the engine decides after an attempt is what the rules say of it
(`decision_cases`). So the retry makes all attempts up to the first at which
a rule holds (`attempts_makes`), by induction on how many attempts the
policy still allows: the number of the attempt and that of those allowed
after it always add up to the most that are allowed. Main statement:
`Engine.retry_attempts`.
-/

namespace Scenario

variable {σ : Type}

theorem Engine.attempt_pauses (e : Engine σ) (step : Step) (frame : Option LoopFrame)
    (p : Progress σ) : (e.attempt step frame p).2.pauses = p.pauses := by
  unfold Engine.attempt
  split
  · rfl
  · split
    · rfl
    · rfl

theorem Engine.retryConditionFault_code (e : Engine σ) (step : Step) (condition : String)
    (error : ConditionError) (frame : Option LoopFrame) :
    (e.retryConditionFault step condition error frame).code = Code.invalidRetryCondition := by
  rw [Engine.retryConditionFault, Fault.locate_code]
  rfl

/-! ## Tags -/

/-- The words of which a tag covers every text that has one; the empty word
is in all of them. -/
def RetryTag.words : RetryTag → List String
  | httpError => ["http"]
  | timeout => ["timeout", "timed out"]
  | connectionError => ["connection", "dial", "network"]
  | assertionFailed => ["assertion"]
  | all => [""]

theorem RetryTag.covers_iff {tag : RetryTag} {text : String} :
    tag.covers text = true ↔ ∃ word ∈ tag.words, word.toList <:+: text.toList := by
  cases tag <;> simp [covers, words, Text.contains, Text.occursIn_iff, or_assoc]

/-! ## Attempts -/

/-- An action under a retry policy, before the first attempt. -/
structure RetryStart (σ : Type) where
  engine : Engine σ
  step : Step
  policy : RetryPolicy
  base : Duration
  frame : Option LoopFrame
  progress : Progress σ

namespace RetryStart

variable (r : RetryStart σ)

/-- The pause after an attempt, counted from zero. -/
def pause (k : Nat) : Duration :=
  r.policy.backoff.delayAfter r.base k

/-- The state before an attempt, after all attempts before it and the pauses
that follow them. -/
def before : Nat → Progress σ
  | 0 => r.progress
  | k + 1 =>
    let p := (r.engine.attempt r.step r.frame (before k)).2
    { p with pauses := p.pauses ++ [r.pause k] }

/-- The row of an attempt and the state after it. -/
def attempt (k : Nat) : Row × Progress σ :=
  r.engine.attempt r.step r.frame (r.before k)

def result (k : Nat) : ActionResult :=
  (r.attempt k).1.result

/-- The variables after an attempt, with those that describe it. -/
def scope (k : Nat) : Store :=
  (r.attempt k).2.store.insertAll (r.result k).seeds

theorem pauses_before (n : Nat) :
    (r.before n).pauses = r.progress.pauses ++ (List.range n).map r.pause := by
  induction n with
  | zero => rw [List.range_zero, List.map_nil, List.append_nil]; rfl
  | succ n ih =>
      show (r.attempt n).2.pauses ++ [r.pause n] = _
      rw [attempt, Engine.attempt_pauses, ih, List.range_succ, List.map_append,
        List.append_assoc, List.map_singleton]

/-! ## The rules -/

/-- The attempt passed, and a success is enough. -/
def Satisfied (k : Nat) : Prop :=
  (r.result k).status = .passed ∧ r.policy.stopOnSuccess ≠ some false

/-- The condition `retry_if` is false or cannot be evaluated. -/
def Declined (k : Nat) : Prop :=
  ∃ text, r.policy.retryIf = some text ∧
    Condition.evaluate r.engine.env (r.scope k) text ≠ .ok true

/-- There are tags `retry_on`, and no word of theirs is in what the fault or
the failure of the attempt says. -/
def Uncovered (k : Nat) : Prop :=
  r.policy.retryOn ≠ [] ∧ ∃ code message,
    (r.result k).outcome.code? = some code ∧ (r.result k).outcome.message? = some message ∧
      ∀ tag ∈ r.policy.retryOn, ∀ word ∈ tag.words,
        ¬word.toList <:+: (Text.lowered (code ++ " " ++ message)).toList

/-- No more attempts are allowed. -/
def Exhausted (k : Nat) : Prop :=
  k + 1 = max 1 r.policy.attempts

/-- The attempt is the last one as far as its outcome goes. -/
def Settled (k : Nat) : Prop :=
  r.Satisfied k ∨ r.Declined k ∨ r.Uncovered k

/-- There is no attempt after this one. -/
def Stops (k : Nat) : Prop :=
  r.Satisfied k ∨ r.Declined k ∨ r.Uncovered k ∨ r.Exhausted k

/-- The condition `retry_if` is asked after the attempt and cannot be
evaluated. -/
def Unevaluable (k : Nat) (text : String) (error : ConditionError) : Prop :=
  ¬r.Satisfied k ∧ r.policy.retryIf = some text ∧
    Condition.evaluate r.engine.env (r.scope k) text = .error error

def decision (k : Nat) : RetryPolicy.Decision :=
  r.policy.decide r.engine.env (r.result k) (r.attempt k).2.store

variable {r}

theorem satisfied_iff {k : Nat} :
    ((r.result k).status == .passed && r.policy.stopsOnSuccess) = true ↔ r.Satisfied k := by
  rw [Bool.and_eq_true, beq_iff_eq]
  refine and_congr_right fun _ => ?_
  rw [RetryPolicy.stopsOnSuccess]
  rcases r.policy.stopOnSuccess with _ | _ | _ <;> simp

theorem coversResult_eq_false_iff {k : Nat} :
    r.policy.coversResult (r.result k) = false ↔ r.Uncovered k := by
  unfold RetryPolicy.coversResult Uncovered
  split
  · next code message hcode hmessage =>
      simp [hcode, hmessage, ← Bool.not_eq_true, RetryTag.covers_iff]
  · next hnone =>
      refine iff_of_false Bool.noConfusion ?_
      rintro ⟨-, code, message, hcode, hmessage, -⟩
      exact hnone code message hcode hmessage

theorem Unevaluable.declined {k : Nat} {text : String} {error : ConditionError}
    (h : r.Unevaluable k text error) : r.Declined k := by
  obtain ⟨-, htext, heval⟩ := h
  refine ⟨text, htext, fun htrue => ?_⟩
  cases heval.symm.trans htrue

theorem Unevaluable.unique {k : Nat} {text text' : String} {error error' : ConditionError}
    (h : r.Unevaluable k text error) (h' : r.Unevaluable k text' error') :
    text = text' ∧ error = error' := by
  obtain ⟨-, htext, heval⟩ := h
  obtain ⟨-, htext', heval'⟩ := h'
  obtain rfl : text = text' := Option.some.inj (htext.symm.trans htext')
  exact ⟨rfl, Except.error.inj (heval.symm.trans heval')⟩

/-- Without a condition, or after one that holds, the tags decide. -/
theorem decision_of_not_declined {k : Nat} (hsatisfied : ¬r.Satisfied k)
    (hdeclined : ¬r.Declined k) :
    r.decision k = if r.policy.coversResult (r.result k) then .again else .stop := by
  rw [decision, RetryPolicy.decide, if_neg (mt satisfied_iff.mp hsatisfied),
    RetryPolicy.condition?]
  cases hif : r.policy.retryIf with
  | none => rfl
  | some text =>
      have htrue : Condition.evaluate r.engine.env (r.scope k) text = .ok true :=
        Classical.byContradiction fun hne => hdeclined ⟨text, hif, hne⟩
      rw [Option.map_some, ← scope, htrue]

/-- A condition that is false ends the attempts, and one that cannot be
evaluated is reported. -/
theorem decision_of_condition {k : Nat} {text : String} (hsatisfied : ¬r.Satisfied k)
    (hif : r.policy.retryIf = some text) :
    (Condition.evaluate r.engine.env (r.scope k) text = .ok false → r.decision k = .stop) ∧
      ∀ error, Condition.evaluate r.engine.env (r.scope k) text = .error error →
        r.decision k = .unevaluable text error := by
  rw [decision, RetryPolicy.decide, if_neg (mt satisfied_iff.mp hsatisfied),
    RetryPolicy.condition?, hif, Option.map_some, ← scope]
  exact ⟨fun hfalse => by rw [hfalse], fun error herror => by rw [herror]⟩

/-- What the engine decides is what the rules say, asked in their order. -/
theorem decision_cases (k : Nat) :
    (r.decision k = .again ∧ ¬r.Settled k) ∨
    (r.decision k = .stop ∧ r.Settled k ∧ ∀ text error, ¬r.Unevaluable k text error) ∨
    ∃ text error, r.decision k = .unevaluable text error ∧ r.Unevaluable k text error := by
  by_cases hsatisfied : r.Satisfied k
  · refine .inr (.inl ⟨?_, .inl hsatisfied, fun _ _ hunevaluable => hunevaluable.1 hsatisfied⟩)
    rw [decision, RetryPolicy.decide, if_pos (satisfied_iff.mpr hsatisfied)]
  by_cases hdeclined : r.Declined k
  · obtain ⟨text, hif, hne⟩ := hdeclined
    obtain ⟨hstop, hreport⟩ := decision_of_condition hsatisfied hif
    rcases heval : Condition.evaluate r.engine.env (r.scope k) text with error | _ | _
    · exact .inr (.inr ⟨text, error, hreport error heval, hsatisfied, hif, heval⟩)
    · refine .inr (.inl ⟨hstop heval, .inr (.inl ⟨text, hif, hne⟩), ?_⟩)
      rintro text' error ⟨-, hif', herror⟩
      rw [Option.some.inj (hif.symm.trans hif')] at heval
      cases heval.symm.trans herror
    · exact absurd heval hne
  have hdecision := decision_of_not_declined hsatisfied hdeclined
  by_cases huncovered : r.Uncovered k
  · rw [coversResult_eq_false_iff.mpr huncovered, if_neg Bool.false_ne_true] at hdecision
    exact .inr (.inl ⟨hdecision, .inr (.inr huncovered),
      fun _ _ hunevaluable => hdeclined hunevaluable.declined⟩)
  · have hcovers := Bool.of_not_eq_false (mt coversResult_eq_false_iff.mp huncovered)
    rw [hcovers, if_pos rfl] at hdecision
    exact .inl ⟨hdecision, fun hsettled => hsettled.elim hsatisfied fun hrest =>
      hrest.elim hdeclined huncovered⟩

theorem stops_iff {k : Nat} : r.Stops k ↔ r.Settled k ∨ r.Exhausted k := by
  simp only [Stops, Settled, or_assoc]

/-! ## The attempts -/

/-- A row and a last state after an attempt, counted from zero, at which the
retry ends. -/
structure Makes (r : RetryStart σ) (n : Nat) (out : Row × Progress σ) : Prop where
  attempts_eq : out.1.attempts = n + 1
  attempts_le : n + 1 ≤ max 1 r.policy.attempts
  /-- A rule ends the attempts, and none ended them before. -/
  stops : r.Stops n
  goes_on : ∀ k < n, ¬r.Stops k
  progress_eq : out.2 = (r.attempt n).2
  /-- There is a pause between two attempts, and none after the last. -/
  pauses_eq : out.2.pauses = r.progress.pauses ++ (List.range n).map r.pause
  /-- The row has the result of the last attempt. -/
  result_eq : (∀ text error, ¬r.Unevaluable n text error) → out.1.result = r.result n
  /-- A condition that cannot be evaluated takes its place. -/
  result_of_unevaluable : ∀ text error, r.Unevaluable n text error →
    ∃ fault, out.1.result = .error fault ∧ fault.code = Code.invalidRetryCondition ∧
      fault = r.engine.retryConditionFault r.step text error r.frame

theorem Makes.of_row {n : Nat} {row : Row} (hattempts : row.attempts = n + 1)
    (hle : n + 1 ≤ max 1 r.policy.attempts) (hstops : r.Stops n) (hgoes : ∀ k < n, ¬r.Stops k)
    (hresult : (∀ text error, ¬r.Unevaluable n text error) → row.result = r.result n)
    (hunevaluable : ∀ text error, r.Unevaluable n text error →
      row.result = .error (r.engine.retryConditionFault r.step text error r.frame)) :
    r.Makes n (row, (r.attempt n).2) where
  attempts_eq := hattempts
  attempts_le := hle
  stops := hstops
  goes_on := hgoes
  progress_eq := rfl
  pauses_eq := by rw [attempt, Engine.attempt_pauses, pauses_before]
  result_eq := hresult
  result_of_unevaluable := fun text error h =>
    ⟨_, hunevaluable text error h, r.engine.retryConditionFault_code .., rfl⟩

variable (r) in
/-- The row of an attempt after others whose logs are `logs`. -/
def row (k : Nat) (logs : List String) : Row :=
  { (r.attempt k).1 with
    attempts := k + 1
    logs := logs ++ (r.attempt k).1.logs ++
      [s!"attempt {k + 1}/{r.policy.maxAttempts}: " ++ (r.attempt k).1.status.label] }

variable (r) in
/-- The attempts after `k` others whose logs are `logs`, if `remaining` more
are allowed after the next one. -/
def attempts (remaining k : Nat) (logs : List String) : Row × Progress σ :=
  r.engine.attemptsFrom r.step r.policy r.base r.frame remaining k logs (r.before k)

theorem attempts_eq (remaining k : Nat) (logs : List String) :
    r.attempts remaining k logs =
      match r.decision k, remaining with
      | .unevaluable text error, _ =>
        ({ r.row k logs with
            result := .error (r.engine.retryConditionFault r.step text error r.frame) },
          (r.attempt k).2)
      | .stop, _ => (r.row k logs, (r.attempt k).2)
      | .again, 0 =>
        ({ r.row k logs with
            logs := (r.row k logs).logs ++ [s!"retry attempts exhausted after {k + 1}"] },
          (r.attempt k).2)
      | .again, remaining + 1 => r.attempts remaining (k + 1) (r.row k logs).logs := by
  have hdecision : r.policy.decide r.engine.env
      (r.engine.attempt r.step r.frame (r.before k)).1.result
      (r.engine.attempt r.step r.frame (r.before k)).2.store = r.decision k := rfl
  rw [attempts, Engine.attemptsFrom]
  dsimp only
  rw [hdecision]
  cases r.decision k <;> cases remaining <;> rfl

/-- The attempts end with one whose outcome settles it. -/
theorem makes_of_settled {remaining k : Nat} (logs : List String) (hsettled : r.Settled k)
    (hle : k + 1 ≤ max 1 r.policy.attempts) (hgoes : ∀ j < k, ¬r.Stops j) :
    r.Makes k (r.attempts remaining k logs) := by
  have hstops : r.Stops k := stops_iff.mpr (.inl hsettled)
  rw [attempts_eq]
  rcases decision_cases k with ⟨-, hgoesOn⟩ | ⟨hstop, -, hevaluable⟩ |
    ⟨text, error, hreport, hunevaluable⟩
  · exact absurd hsettled hgoesOn
  · rw [hstop]
    exact .of_row rfl hle hstops hgoes (fun _ => rfl)
      fun text error h => absurd h (hevaluable text error)
  · rw [hreport]
    refine .of_row rfl hle hstops hgoes (fun h => absurd hunevaluable (h text error)) ?_
    intro text' error' h
    obtain ⟨rfl, rfl⟩ := hunevaluable.unique h
    rfl

theorem decision_of_not_settled {k : Nat} (h : ¬r.Settled k) : r.decision k = .again := by
  rcases decision_cases k with ⟨hagain, -⟩ | ⟨-, hsettled, -⟩ | ⟨text, error, -, hunevaluable⟩
  · exact hagain
  · exact absurd hsettled h
  · exact absurd (.inr (.inl hunevaluable.declined)) h

/-- Whatever remains of the attempts ends at the first at which a rule
holds. -/
theorem attempts_makes {remaining k : Nat} (logs : List String)
    (hlimit : k + 1 + remaining = max 1 r.policy.attempts) (hgoes : ∀ j < k, ¬r.Stops j) :
    ∃ n, r.Makes n (r.attempts remaining k logs) := by
  induction remaining generalizing k logs with
  | zero =>
      by_cases hsettled : r.Settled k
      · exact ⟨k, makes_of_settled logs hsettled (by omega) hgoes⟩
      -- nothing settles the attempt, but it is the last one allowed
      have hexhausted : r.Exhausted k := hlimit
      refine ⟨k, ?_⟩
      rw [attempts_eq, decision_of_not_settled hsettled]
      exact .of_row rfl (by omega) (stops_iff.mpr (.inr hexhausted)) hgoes (fun _ => rfl)
        fun text error h => absurd (.inr (.inl h.declined)) hsettled
  | succ remaining ih =>
      by_cases hsettled : r.Settled k
      · exact ⟨k, makes_of_settled logs hsettled (by omega) hgoes⟩
      have hallowed : ¬r.Exhausted k := by
        intro hexhausted
        rw [Exhausted] at hexhausted
        omega
      rw [attempts_eq, decision_of_not_settled hsettled]
      refine ih _ (by omega) fun j hj => ?_
      rcases Nat.lt_succ_iff_lt_or_eq.mp hj with hearlier | rfl
      · exact hgoes j hearlier
      · exact fun hstops => (stops_iff.mp hstops).elim hsettled hallowed

theorem exists_makes (r : RetryStart σ) :
    ∃ n, r.Makes n (r.attempts (r.policy.maxAttempts - 1) 0 []) := by
  have hlimit : 0 + 1 + (r.policy.maxAttempts - 1) = max 1 r.policy.attempts := by
    rw [RetryPolicy.maxAttempts]
    omega
  exact attempts_makes [] hlimit fun j hj => absurd hj (Nat.not_lt_zero j)

end RetryStart

namespace Engine

/-- Either the pause cannot be read, and nothing is attempted, or the retry
makes attempts. -/
theorem retry_cases (e : Engine σ) (step : Step) (policy : RetryPolicy)
    (frame : Option LoopFrame) (p : Progress σ) :
    (Duration.parse? policy.delay = none ∧
      e.retry step policy frame p =
        (step.faultRow (e.retryDelayFault step policy.delay frame), p)) ∨
    ∃ base n, Duration.parse? policy.delay = some base ∧
      RetryStart.Makes ⟨e, step, policy, base, frame, p⟩ n (e.retry step policy frame p) := by
  cases hdelay : Duration.parse? policy.delay with
  | none =>
      rw [retry, hdelay]
      exact .inl ⟨rfl, rfl⟩
  | some base =>
      obtain ⟨n, hmakes⟩ := RetryStart.exists_makes ⟨e, step, policy, base, frame, p⟩
      rw [retry, hdelay]
      exact .inr ⟨base, n, rfl, hmakes⟩

/-- An engine with a line that is busy for some calls. -/
def busyFor (calls : Nat) : Engine Nat where
  catalog := .ofList [("call", fun _ _ store made =>
    (if made < calls then .error ⟨.network, "BUSY", "dial again", .empty, []⟩ else .passed .null,
      store, made + 1))]

end Engine

end Scenario
