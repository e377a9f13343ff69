import Scenario.Proofs.Accepted

/-!
# Pauses with references

The pause of a retry policy is read as it is written. A duration is made of
digits, signs, points, letters and blanks (`Duration.admits_of_parse?`), and
a reference begins with a `$`, so no text with a reference is a duration
(`Duration.parse?_of_reference`), whatever its references stand for. A text
without references is the same after they are replaced. So a pause that is a
duration once its references are replaced is used exactly if it has none.
Main statement: `Engine.retry_pause_iff`.
-/

namespace Scenario

open Scenario.Text

variable {σ : Type}

/-! ## Characters of numbers -/

namespace Text

theorem isDigit_of_digits? {cs : List Char} {value n : Nat} (h : digits? value cs = some n) :
    ∀ c ∈ cs, isDigit c = true := by
  induction cs generalizing value with
  | nil => exact fun c hc => absurd hc List.not_mem_nil
  | cons c cs ih =>
      rw [digits?] at h
      cases hdigit : digit? c with
      | none =>
          rw [hdigit] at h
          cases h
      | some d =>
          rw [hdigit] at h
          refine List.forall_mem_cons.mpr ⟨?_, ih h⟩
          rw [← digit?_isSome, hdigit]
          rfl

theorem isDigit_of_unsigned? {cs : List Char} {n : Nat} (h : unsigned? cs = some n) :
    ∀ c ∈ cs, isDigit c = true := by
  cases cs with
  | nil => cases h
  | cons c cs => exact isDigit_of_digits? h

theorem isLetter_of_lowerAscii {c : Char} (h : isLetter (lowerAscii c) = true) :
    isLetter c = true := by
  rw [lowerAscii] at h
  split at h
  · next hupper => simp [isLetter, hupper]
  · exact h

end Text

namespace Double

/-- A character of a number: a digit, a sign, a point or a letter. -/
def isNumeral (c : Char) : Bool :=
  isDigit c || isLetter c || c == '+' || c == '-' || c == '.'

theorem isNumeral_of_isDigit {c : Char} (h : isDigit c = true) : isNumeral c = true := by
  rw [isNumeral, h]
  rfl

theorem isNumeral_of_isLetter {c : Char} (h : isLetter c = true) : isNumeral c = true := by
  rw [isNumeral, h, Bool.or_true]
  rfl

theorem isNumeral_of_exponent? {cs : List Char} {exponent : Int}
    (h : exponent? cs = some exponent) : ∀ c ∈ cs, isNumeral c = true := by
  have hdigits {rest : List Char} {n : Nat} (hn : unsigned? rest = some n) :
      ∀ c ∈ rest, isNumeral c = true :=
    fun c hc => isNumeral_of_isDigit (isDigit_of_unsigned? hn c hc)
  unfold exponent? at h
  split at h
  · obtain ⟨i, hi, -⟩ := Option.map_eq_some_iff.mp h
    obtain ⟨n, hn, -⟩ := Option.bind_eq_some_iff.mp hi
    exact List.forall_mem_cons.mpr ⟨by decide, hdigits hn⟩
  · obtain ⟨n, hn, -⟩ := Option.map_eq_some_iff.mp h
    exact List.forall_mem_cons.mpr ⟨by decide, hdigits hn⟩
  · obtain ⟨n, hn, -⟩ := Option.map_eq_some_iff.mp h
    exact hdigits hn

theorem isNumeral_of_rest {cs : List Char} {f : Int → Option Double} {value : Double}
    (h : (match cs with
      | [] => (some 0).bind f
      | c :: tail =>
        if c = 'e' ∨ c = 'E' then (exponent? tail).bind f else none.bind f) = some value) :
    ∀ c ∈ cs, isNumeral c = true := by
  cases cs with
  | nil => exact fun c hc => absurd hc List.not_mem_nil
  | cons c tail =>
      dsimp only at h
      split at h
      · next hmark =>
          obtain ⟨exponent, hexponent, -⟩ := Option.bind_eq_some_iff.mp h
          refine List.forall_mem_cons.mpr ⟨?_, isNumeral_of_exponent? hexponent⟩
          rcases hmark with rfl | rfl <;> decide
      · cases h

theorem isNumeral_of_dropWhile {cs : List Char}
    (h : ∀ c ∈ cs.dropWhile isDigit, isNumeral c = true) : ∀ c ∈ cs, isNumeral c = true := by
  intro c hc
  rw [← List.takeWhile_append_dropWhile (p := isDigit) (l := cs), List.mem_append] at hc
  rcases hc with hdigit | hrest
  · exact isNumeral_of_isDigit (List.mem_takeWhile_imp hdigit)
  · exact h c hrest

theorem isNumeral_of_magnitude? {negative : Bool} {cs : List Char} {value : Double}
    (h : magnitude? negative cs = some value) : ∀ c ∈ cs, isNumeral c = true := by
  refine isNumeral_of_dropWhile ?_
  unfold magnitude? at h
  dsimp only at h
  split at h
  · next tail hpoint =>
      -- after the point there may be digits again
      obtain ⟨coefficient, -, hrest⟩ := Option.bind_eq_some_iff.mp h
      rw [hpoint]
      exact List.forall_mem_cons.mpr
        ⟨by decide, isNumeral_of_dropWhile (isNumeral_of_rest hrest)⟩
  · obtain ⟨coefficient, -, hrest⟩ := Option.bind_eq_some_iff.mp h
    exact isNumeral_of_rest hrest

theorem isNumeral_of_word? {negative : Bool} {cs : List Char} {value : Double}
    (h : word? negative cs = some value) : ∀ c ∈ cs, isNumeral c = true := by
  have hword : (String.ofList (cs.map lowerAscii)).toList.all isLetter = true := by
    unfold word? at h
    dsimp only at h
    split at h
    · next hnan =>
        rw [hnan]
        decide
    · split at h
      · next hinf =>
          rcases hinf with hinf | hinf <;>
            rw [hinf] <;> decide
      · cases h
  rw [String.toList_ofList, List.all_map, List.all_eq_true] at hword
  exact fun c hc => isNumeral_of_isLetter (isLetter_of_lowerAscii (hword c hc))

/-- A number is made of digits, letters, signs and points. -/
theorem isNumeral_of_read? {cs : List Char} {value : Double} (h : read? cs = some value) :
    ∀ c ∈ cs, isNumeral c = true := by
  have hunsigned {negative : Bool} {rest : List Char}
      (hrest : (magnitude? negative rest).or (word? negative rest) = some value) :
      ∀ c ∈ rest, isNumeral c = true := by
    rcases Option.or_eq_some_iff.mp hrest with hmagnitude | ⟨-, hword⟩
    · exact isNumeral_of_magnitude? hmagnitude
    · exact isNumeral_of_word? hword
  unfold read? at h
  dsimp only at h
  split at h
  · exact List.forall_mem_cons.mpr ⟨by decide, hunsigned h⟩
  · exact List.forall_mem_cons.mpr ⟨by decide, hunsigned h⟩
  · exact hunsigned h

end Double

/-! ## Characters of durations -/

namespace Duration

/-- A character that a duration can have. -/
def admits (c : Char) : Bool :=
  isBlank c || Double.isNumeral c

theorem admits_of_isNumeral {c : Char} (h : Double.isNumeral c = true) : admits c = true := by
  rw [admits, h, Bool.or_true]

theorem admits_of_trim {cs : List Char} (h : ∀ c ∈ trim cs, admits c = true) :
    ∀ c ∈ cs, admits c = true := by
  intro c hc
  by_cases hblank : isBlank c = true
  · rw [admits, hblank, Bool.true_or]
  · exact h c (mem_trim hc hblank)

theorem isLetter_of_toSeconds? {value seconds : Double} {unit : String}
    (h : toSeconds? value unit = some seconds) : ∀ c ∈ unit.toList, isLetter c = true := by
  have hunit : (loweredAscii unit).toList.all isLetter = true := by
    unfold toSeconds? at h
    dsimp only at h
    split at h
    case h_6 => cases h
    all_goals
      next heq =>
        rw [heq]
        decide
  rw [loweredAscii, String.toList_ofList, List.all_map, List.all_eq_true] at hunit
  exact fun c hc => isLetter_of_lowerAscii (hunit c hc)

theorem admits_of_parse? {text : String} {d : Duration} (h : parse? text = some d) :
    ∀ c ∈ text.toList, admits c = true := by
  refine admits_of_trim ?_
  unfold parse? at h
  dsimp only at h
  split at h
  · next hempty =>
      rw [List.isEmpty_iff.mp hempty]
      exact fun c hc => absurd hc List.not_mem_nil
  · obtain ⟨value, hvalue, hrest⟩ := Option.bind_eq_some_iff.mp h
    split at hrest
    · obtain ⟨seconds, hseconds, -⟩ := Option.bind_eq_some_iff.mp hrest
      have hnumber : ∀ c ∈ (splitUnit (trim text.toList)).1, admits c = true :=
        admits_of_trim fun c hc => admits_of_isNumeral (Double.isNumeral_of_read? hvalue c hc)
      have hunit : ∀ c ∈ (splitUnit (trim text.toList)).2, admits c = true := by
        refine admits_of_trim fun c hc => admits_of_isNumeral ?_
        refine Double.isNumeral_of_isLetter (isLetter_of_toSeconds? hseconds c ?_)
        rw [String.toList_ofList]
        exact hc
      intro c hc
      rw [← List.takeWhile_append_dropWhile (p := fun c => !isLetter c) (l := trim text.toList),
        List.mem_append] at hc
      exact hc.elim (hnumber c) (hunit c)
    · cases hrest

/-- No text with a reference is a duration. -/
theorem parse?_of_reference {text : String} (h : Validation.hasReference text = true) :
    parse? text = none := by
  have hmem : '$' ∈ text.toList := (occursIn_iff.mp h).subset List.mem_cons_self
  cases hparse : parse? text with
  | none => rfl
  | some d => exact absurd (admits_of_parse? hparse '$' hmem) (by decide)

end Duration

/-! ## Retries -/

namespace Engine

/-- **When a pause is used.** Let the pause of a retry policy be a duration
once its references are replaced. The retry makes attempts with that pause
exactly if the text has no references: then it never says that the pause
cannot be read, as long as the action does not say so itself. With a
reference it says so without an attempt, and changes nothing. -/
theorem retry_pause_iff (e : Engine σ) (step : Step) (policy : RetryPolicy)
    (frame : Option LoopFrame) (p : Progress σ) {base : Duration}
    (hpause : Duration.parse? (p.store.substitute e.env policy.delay) = some base) :
    let r : RetryStart σ := ⟨e, step, policy, base, frame, p⟩
    let out := e.retry step policy frame p
    ((∃ n, r.Makes n out) ↔ Validation.hasReference policy.delay = false) ∧
    (Validation.hasReference policy.delay = true →
      out = (step.faultRow (e.retryDelayFault step policy.delay frame), p)) ∧
    (e.catalog.Avoids [Code.invalidRetryDelay] →
      (out.1.result.outcome.code? = some Code.invalidRetryDelay ↔
        Validation.hasReference policy.delay = true)) := by
  intro r out
  cases hreference : Validation.hasReference policy.delay with
  | false =>
      have hplain : ¬['$', '\x7b'] <:+: policy.delay.toList := occursIn_eq_false_iff.mp hreference
      rw [Store.substitute_of_not_infix hplain] at hpause
      have hmakes : ∃ n, r.Makes n out := by
        rcases e.retry_cases step policy frame p with ⟨hnone, -⟩ | ⟨base', n, hbase, hmakes⟩
        · cases hnone.symm.trans hpause
        · obtain rfl : base' = base := Option.some.inj (hbase.symm.trans hpause)
          exact ⟨n, hmakes⟩
      refine ⟨iff_of_true hmakes rfl, nofun, fun havoids => iff_of_false (fun hcode => ?_) nofun⟩
      have hcodes : [Code.invalidRetryDelay] ⊆ Validation.codes :=
        List.cons_subset.mpr ⟨by decide +kernel, List.nil_subset _⟩
      rcases retry_code hcodes havoids hcode (List.mem_singleton_self _) with
        ⟨hnone, -⟩ | ⟨-, hempty⟩
      · cases hnone.symm.trans hpause
      · exact absurd hempty (by decide +kernel)
  | true =>
      have hout : out = (step.faultRow (e.retryDelayFault step policy.delay frame), p) := by
        rcases e.retry_cases step policy frame p with ⟨-, hunread⟩ | ⟨base', n, hbase, -⟩
        · exact hunread
        · cases (Duration.parse?_of_reference hreference).symm.trans hbase
      refine ⟨iff_of_false ?_ nofun, fun _ => hout, fun _ => iff_of_true ?_ rfl⟩
      · rintro ⟨n, hmakes⟩
        -- a retry that ends at an attempt has made at least one
        have hattempts := hmakes.attempts_eq
        rw [hout] at hattempts
        cases hattempts
      · rw [hout]
        exact congrArg some (e.retryDelayFault_code step policy.delay frame)

/-! ### A pause in a variable -/

/-- Calls again, once, after a pause. -/
def callTwice (delay : String) : RetryPolicy where
  attempts := 2
  delay := delay

/-- A pause without references is used. -/
theorem retry_pause_iff_written :
    let step : Step := { name := "call", action := some "call" }
    let second : Duration := ⟨1000000000, by decide⟩
    let p : Progress Nat := ⟨.ofList [("pause", .string "1s")], 0, []⟩
    let r : RetryStart Nat := ⟨busyFor 1, step, callTwice "1s", second, none, p⟩
    let out := (busyFor 1).retry step (callTwice "1s") none p
    (Duration.parse? (p.store.substitute (busyFor 1).env "1s") = some second ∧
      out.2.pauses = [second]) ∧
      ∃ n, r.Makes n out := by
  intro step second p r out
  have hpause : Duration.parse? (p.store.substitute (busyFor 1).env (callTwice "1s").delay) =
      some second := by decide +kernel
  obtain ⟨hmakes, -, -⟩ := retry_pause_iff (busyFor 1) step (callTwice "1s") none p hpause
  exact ⟨⟨hpause, by decide +kernel⟩, hmakes.mpr (by decide +kernel)⟩

/-- The same pause in a variable is accepted before a run, and refused in
it. -/
theorem retry_refuses_reference :
    let step : Step :=
      { name := "call", action := some "call", retry := some (callTwice "$\x7bpause\x7d") }
    let test : TestCase := { name := "case", steps := [step] }
    let second : Duration := ⟨1000000000, by decide⟩
    let p : Progress Nat := ⟨.ofList [("pause", .string "1s")], 0, []⟩
    let out := (busyFor 1).retry step (callTwice "$\x7bpause\x7d") none p
    Validation.check test = .ok () ∧
      Duration.parse? (p.store.substitute (busyFor 1).env "$\x7bpause\x7d") = some second ∧
      out.1.result.outcome.code? = some Code.invalidRetryDelay ∧
      out.1.attempts = 0 ∧ out.2.state = 0 ∧ out.2.pauses = [] := by
  decide +kernel

end Engine

end Scenario
