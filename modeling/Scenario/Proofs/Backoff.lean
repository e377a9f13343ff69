import Mathlib.Algebra.Group.Nat.Defs
import Scenario.Proofs.Retrying

/-!
# Pauses that grow, in exact numbers and in machine words

A pause is said above as an exact count of nanoseconds that is cut at the longest
duration. A machine has 64 bits of seconds, nanoseconds below one second in 32
bits, and factors of 32 bits; there, the product of the nanoseconds is taken
first, in 64 bits that it never fills, and what it has of whole seconds is
carried. `Duration.Words` is this arithmetic, with an operation that may wrap
wherever the machine does not check.

The two agree (`Backoff.toDuration_delayInWords`): the seconds with their carry
are a word exactly if the exact product is a duration
(`Duration.Words.times?_eq`), so nothing wraps and nothing is cut too early.
Factors grow with the index up to the largest word and stay there, hence so do
the pauses. Main statement: `Backoff.delayAfter_exact`.
-/

namespace Scenario

open Scenario.Text

variable {σ : Type}

/-! ## Checked words -/

/-- The product of two words, if it is a word. -/
def checkedMul (a b : UInt64) : Option UInt64 :=
  if a.toNat * b.toNat ≤ wordLimit then some (a * b) else none

/-- The sum of two words, if it is a word. -/
def checkedAdd (a b : UInt64) : Option UInt64 :=
  if a.toNat + b.toNat ≤ wordLimit then some (a + b) else none

/-- A product and a sum, if both are words. -/
def checkedMulAdd (a b c : UInt64) : Option UInt64 := do
  checkedAdd (← checkedMul a b) c

/-- The next half word; there is none after the largest. -/
def saturatingSucc (n : UInt32) : UInt32 :=
  if n.toNat = halfWordLimit then n else n + 1

/-- A power of two by doubling, if it is a half word. -/
def checkedPowerOfTwo : Nat → Option UInt32
  | 0 => some 1
  | n + 1 => do
    let half ← checkedPowerOfTwo n
    if 2 * half.toNat ≤ halfWordLimit then some (2 * half) else none

def saturatingPowerOfTwo (n : UInt32) : UInt32 :=
  (checkedPowerOfTwo n.toNat).getD 0xffffffff

theorem toNat_mul_of_le {a b : UInt64} (h : a.toNat * b.toNat ≤ wordLimit) :
    (a * b).toNat = a.toNat * b.toNat := by
  rw [UInt64.toNat_mul]
  exact Nat.mod_eq_of_lt (Nat.lt_succ_of_le h)

/-- Two checks are as good as one of the exact result. -/
theorem checkedMulAdd_eq (a b c : UInt64) :
    (checkedMulAdd a b c).map UInt64.toNat =
      if a.toNat * b.toNat + c.toNat ≤ wordLimit then some (a.toNat * b.toNat + c.toNat)
      else none := by
  unfold checkedMulAdd checkedMul
  by_cases hproduct : a.toNat * b.toNat ≤ wordLimit
  · rw [if_pos hproduct, Option.bind_eq_bind, Option.bind_some, checkedAdd,
      toNat_mul_of_le hproduct]
    by_cases hsum : a.toNat * b.toNat + c.toNat ≤ wordLimit
    · rw [if_pos hsum, if_pos hsum, Option.map_some, UInt64.toNat_add, toNat_mul_of_le hproduct]
      exact congrArg some (Nat.mod_eq_of_lt (Nat.lt_succ_of_le hsum))
    · rw [if_neg hsum, if_neg hsum]
      rfl
  · rw [if_neg hproduct, if_neg fun hsum => hproduct (Nat.le_trans (Nat.le_add_right _ _) hsum)]
    rfl

theorem toNat_saturatingSucc (n : UInt32) :
    (saturatingSucc n).toNat = min (n.toNat + 1) halfWordLimit := by
  have hlt := n.toNat_lt
  unfold saturatingSucc
  split
  · next hlast => rw [hlast]; decide
  · next hnext =>
      have hle : n.toNat + 1 ≤ halfWordLimit := by
        unfold halfWordLimit at hnext ⊢
        omega
      rw [UInt32.toNat_add, Nat.min_eq_left hle]
      exact Nat.mod_eq_of_lt (Nat.lt_succ_of_le hle)

theorem two_pow_le_halfWordLimit_iff {n : Nat} : 2 ^ n ≤ halfWordLimit ↔ n < 32 := by
  rw [← Nat.pow_lt_pow_iff_right (a := 2) (by decide)]
  unfold halfWordLimit
  omega

/-- Doubling is exact as long as the power is a half word, and ends there. -/
theorem checkedPowerOfTwo_eq (n : Nat) :
    (checkedPowerOfTwo n).map UInt32.toNat = if n < 32 then some (2 ^ n) else none := by
  induction n with
  | zero => rfl
  | succ n ih =>
      have hfits := two_pow_le_halfWordLimit_iff (n := n + 1)
      rw [checkedPowerOfTwo]
      by_cases hn : n < 32
      · rw [if_pos hn] at ih
        obtain ⟨half, hhalf, hvalue⟩ := Option.map_eq_some_iff.mp ih
        have hdouble : 2 * half.toNat = 2 ^ (n + 1) := by rw [hvalue, Nat.pow_succ']
        rw [hhalf, Option.bind_eq_bind, Option.bind_some, hdouble]
        by_cases hlast : n + 1 < 32
        · have hproduct : (2 * half).toNat = 2 * half.toNat := by
            rw [UInt32.toNat_mul]
            exact Nat.mod_eq_of_lt (Nat.lt_succ_of_le (hdouble ▸ hfits.mpr hlast))
          rw [if_pos (hfits.mpr hlast), if_pos hlast, Option.map_some, hproduct, hdouble]
        · rw [if_neg (mt hfits.mp hlast), if_neg hlast]
          rfl
      · rw [if_neg hn, Option.map_eq_none_iff] at ih
        rw [ih, if_neg (by omega)]
        rfl

theorem toNat_saturatingPowerOfTwo (n : UInt32) :
    (saturatingPowerOfTwo n).toNat = if n.toNat < 32 then 2 ^ n.toNat else halfWordLimit := by
  have hpower := checkedPowerOfTwo_eq n.toNat
  unfold saturatingPowerOfTwo
  by_cases hn : n.toNat < 32
  · rw [if_pos hn] at hpower ⊢
    obtain ⟨power, hsome, hvalue⟩ := Option.map_eq_some_iff.mp hpower
    rw [hsome, Option.getD_some, hvalue]
  · rw [if_neg hn] at hpower ⊢
    rw [Option.map_eq_none_iff.mp hpower]
    rfl

namespace Duration

theorem ext_nanoseconds {d d' : Duration} (h : d.nanoseconds = d'.nanoseconds) : d = d' := by
  obtain ⟨n, hn⟩ := d
  obtain ⟨n', hn'⟩ := d'
  obtain rfl : n = n' := h
  rfl

/-! ## Products in machine words -/

/-- A span of time in machine words. -/
structure Words where
  seconds : UInt64
  nanoseconds : UInt32
  lt_second : nanoseconds.toNat < nanosecondsPerSecond

namespace Words

def total (w : Words) : Nat :=
  w.seconds.toNat * nanosecondsPerSecond + w.nanoseconds.toNat

theorem total_le (w : Words) : w.total ≤ maxNanoseconds := by
  have hseconds := w.seconds.toNat_lt
  have hnanoseconds := w.lt_second
  unfold total maxNanoseconds wordLimit
  unfold nanosecondsPerSecond at *
  omega

def toDuration (w : Words) : Duration :=
  ⟨w.total, w.total_le⟩

def longest : Words :=
  ⟨0xffffffffffffffff, 999999999, by decide⟩

/-- The nanoseconds of a product, whole seconds included. -/
def scaled (w : Words) (factor : UInt32) : UInt64 :=
  w.nanoseconds.toUInt64 * factor.toUInt64

theorem toNat_scaled (w : Words) (factor : UInt32) :
    (w.scaled factor).toNat = w.nanoseconds.toNat * factor.toNat := by
  have hle : w.nanoseconds.toNat * factor.toNat ≤ wordLimit := by
    have hproduct := Nat.mul_le_mul (Nat.le_of_lt w.lt_second) (Nat.le_of_lt factor.toNat_lt)
    exact Nat.le_trans hproduct (by decide)
  exact toNat_mul_of_le (a := w.nanoseconds.toUInt64) (b := factor.toUInt64) hle

theorem subsecond_lt (w : Words) (factor : UInt32) :
    (w.scaled factor % 1000000000).toUInt32.toNat < nanosecondsPerSecond := by
  have hlt : (w.scaled factor).toNat % 1000000000 < 1000000000 := Nat.mod_lt _ (by decide)
  rw [UInt64.toNat_toUInt32, UInt64.toNat_mod]
  exact Nat.lt_of_le_of_lt (Nat.mod_le _ _) hlt

/-- The product with a factor, if its seconds are a word. -/
def times? (w : Words) (factor : UInt32) : Option Words :=
  (checkedMulAdd w.seconds factor.toUInt64 (w.scaled factor / 1000000000)).map fun seconds =>
    ⟨seconds, (w.scaled factor % 1000000000).toUInt32, w.subsecond_lt factor⟩

/-- The product with a factor, or the longest span. -/
def saturatingTimes (w : Words) (factor : UInt32) : Words :=
  (w.times? factor).getD longest

/-- The exact product in seconds and nanoseconds. -/
theorem total_mul (w : Words) (factor : Nat) :
    w.total * factor =
      (w.seconds.toNat * factor + w.nanoseconds.toNat * factor / nanosecondsPerSecond) *
          nanosecondsPerSecond +
        w.nanoseconds.toNat * factor % nanosecondsPerSecond := by
  have hdivision := Nat.div_add_mod (w.nanoseconds.toNat * factor) nanosecondsPerSecond
  calc w.total * factor
      = w.seconds.toNat * factor * nanosecondsPerSecond + w.nanoseconds.toNat * factor := by
        rw [total, Nat.add_mul, Nat.mul_right_comm]
    _ = _ := by
        rw [Nat.add_mul, Nat.add_assoc, Nat.mul_comm (_ / _), hdivision]

/-- There is a product exactly if it is no longer than the longest duration, and
then it is exact. -/
theorem times?_eq (w : Words) (factor : UInt32) :
    (w.times? factor).map total =
      if w.total * factor.toNat ≤ maxNanoseconds then some (w.total * factor.toNat) else none := by
  have hscaled := w.toNat_scaled factor
  have htotal := w.total_mul factor.toNat
  have hrest : w.nanoseconds.toNat * factor.toNat % nanosecondsPerSecond < nanosecondsPerSecond :=
    Nat.mod_lt _ (by decide)
  have hcarry : (w.scaled factor / 1000000000).toNat =
      w.nanoseconds.toNat * factor.toNat / nanosecondsPerSecond := by
    rw [UInt64.toNat_div, hscaled]
    rfl
  have hsubsecond : (w.scaled factor % 1000000000).toUInt32.toNat =
      w.nanoseconds.toNat * factor.toNat % nanosecondsPerSecond := by
    rw [UInt64.toNat_toUInt32, UInt64.toNat_mod, hscaled]
    exact Nat.mod_eq_of_lt (Nat.lt_trans hrest (by decide))
  -- the seconds are a word exactly if the product is a duration
  have hfits : w.total * factor.toNat ≤ maxNanoseconds ↔
      w.seconds.toNat * factor.toNat +
        w.nanoseconds.toNat * factor.toNat / nanosecondsPerSecond ≤ wordLimit := by
    rw [htotal]
    unfold maxNanoseconds wordLimit
    unfold nanosecondsPerSecond at *
    omega
  have hseconds := checkedMulAdd_eq w.seconds factor.toUInt64 (w.scaled factor / 1000000000)
  rw [hcarry, UInt32.toNat_toUInt64] at hseconds
  rw [times?, Option.map_map]
  by_cases hle : w.total * factor.toNat ≤ maxNanoseconds
  · rw [if_pos (hfits.mp hle)] at hseconds
    obtain ⟨seconds, hsome, hvalue⟩ := Option.map_eq_some_iff.mp hseconds
    rw [if_pos hle, hsome, Option.map_some, Function.comp_apply, htotal, total, hvalue, hsubsecond]
  · rw [if_neg (mt hfits.mpr hle), Option.map_eq_none_iff] at hseconds
    rw [if_neg hle, hseconds]
    rfl

theorem toDuration_saturatingTimes (w : Words) (factor : UInt32) :
    (w.saturatingTimes factor).toDuration = w.toDuration.times factor.toNat := by
  have hproduct := w.times?_eq factor
  refine ext_nanoseconds ?_
  unfold saturatingTimes toDuration Duration.times
  dsimp only
  by_cases hle : w.total * factor.toNat ≤ maxNanoseconds
  · rw [if_pos hle] at hproduct
    obtain ⟨product, hsome, hvalue⟩ := Option.map_eq_some_iff.mp hproduct
    rw [hsome, Option.getD_some, hvalue, Nat.min_eq_left hle]
  · rw [if_neg hle, Option.map_eq_none_iff] at hproduct
    rw [hproduct, Option.getD_none, Nat.min_eq_right (Nat.le_of_not_le hle)]
    rfl

end Words

end Duration

/-! ## The pauses of a backoff -/

namespace Backoff

open Duration (Words maxNanoseconds)

/-- The pause after the attempt of an index, in machine words. -/
def delayInWords (b : Backoff) (base : Words) (index : UInt32) : Words :=
  match b with
  | fixed => base
  | linear => base.saturatingTimes (saturatingSucc index)
  | exponential => base.saturatingTimes (saturatingPowerOfTwo index)

theorem factor_exponential (index : Nat) :
    exponential.factor index = if index < 32 then 2 ^ index else halfWordLimit := by
  unfold factor
  rw [Nat.one_shiftLeft]

theorem toDuration_delayInWords (b : Backoff) (base : Words) (index : UInt32) :
    (b.delayInWords base index).toDuration = b.delayAfter base.toDuration index.toNat := by
  unfold delayInWords delayAfter
  cases b with
  | fixed =>
      have hwhole : base.total * 1 ≤ maxNanoseconds := by
        rw [Nat.mul_one]
        exact base.total_le
      refine Duration.ext_nanoseconds ?_
      exact ((Nat.min_eq_left hwhole).trans (Nat.mul_one base.total)).symm
  | linear => rw [Words.toDuration_saturatingTimes, toNat_saturatingSucc, factor]
  | exponential =>
      rw [Words.toDuration_saturatingTimes, toNat_saturatingPowerOfTwo, factor_exponential]

/-- Factors do not get smaller. -/
theorem factor_mono (b : Backoff) {index later : Nat} (h : index ≤ later) :
    b.factor index ≤ b.factor later := by
  cases b with
  | fixed => exact Nat.le_refl 1
  | linear =>
      dsimp only [factor]
      omega
  | exponential =>
      have hcap := factor_le exponential index
      rw [factor_exponential] at hcap ⊢
      rw [factor_exponential]
      by_cases hlater : later < 32
      · rw [if_pos hlater, if_pos (Nat.lt_of_le_of_lt h hlater)]
        exact Nat.pow_le_pow_right (by decide) h
      · rw [if_neg hlater]
        exact hcap

theorem delayAfter_mono (b : Backoff) (base : Duration) {index later : Nat} (h : index ≤ later) :
    (b.delayAfter base index).nanoseconds ≤ (b.delayAfter base later).nanoseconds := by
  have hproduct := Nat.mul_le_mul_left base.nanoseconds (b.factor_mono h)
  unfold delayAfter Duration.times
  dsimp only
  omega

end Backoff

namespace Engine

/-- The pauses that a retry adds do not get shorter. -/
theorem retry_pauses_sorted (e : Engine σ) (step : Step) (policy : RetryPolicy)
    (frame : Option LoopFrame) (p : Progress σ) :
    ∃ pauses, (e.retry step policy frame p).2.pauses = p.pauses ++ pauses ∧
      pauses.Pairwise fun earlier later => earlier.nanoseconds ≤ later.nanoseconds := by
  rcases e.retry_cases step policy frame p with ⟨-, hnone⟩ | ⟨base, n, -, hmakes⟩
  · exact ⟨[], by rw [hnone, List.append_nil], .nil⟩
  · refine ⟨_, hmakes.pauses_eq, ?_⟩
    rw [List.pairwise_map]
    exact List.pairwise_lt_range.imp fun hlt =>
      policy.backoff.delayAfter_mono base (Nat.le_of_lt hlt)

end Engine

namespace Backoff

open Duration (Words maxNanoseconds)

/-- **Pauses in exact numbers.** In machine words a pause is what it is in exact
numbers: the base, or a multiple of it, cut at the longest duration. The multiple
is the number of the attempt counted from one, or a power of two, as long as that
is a half word. No pause of a backoff is shorter than one before it, and so none
of those that a retry makes. -/
theorem delayAfter_exact (base : Words) (index : UInt32) :
    let delay (b : Backoff) (index : UInt32) := b.delayAfter base.toDuration index.toNat
    (∀ b : Backoff, (b.delayInWords base index).toDuration = delay b index) ∧
    (delay .fixed index).nanoseconds = min (base.total * 1) maxNanoseconds ∧
    (index.toNat < 2 ^ 32 - 1 →
      (delay .linear index).nanoseconds = min (base.total * (index.toNat + 1)) maxNanoseconds) ∧
    (index.toNat < 32 →
      (delay .exponential index).nanoseconds =
        min (base.total * 2 ^ index.toNat) maxNanoseconds) ∧
    (∀ b later, index ≤ later → (delay b index).nanoseconds ≤ (delay b later).nanoseconds) ∧
    ∀ (σ : Type) (e : Engine σ) (step : Step) (policy : RetryPolicy) (frame : Option LoopFrame)
      (p : Progress σ),
      ∃ pauses, (e.retry step policy frame p).2.pauses = p.pauses ++ pauses ∧
        pauses.Pairwise fun earlier later => earlier.nanoseconds ≤ later.nanoseconds := by
  intro delay
  refine ⟨fun b => b.toDuration_delayInWords base index, rfl, fun hindex => ?_, fun hindex => ?_,
    fun b later hlater => b.delayAfter_mono base.toDuration hlater,
    fun σ e step policy frame p => e.retry_pauses_sorted step policy frame p⟩
  · have hfactor : linear.factor index.toNat = index.toNat + 1 :=
      Nat.min_eq_left (Nat.succ_le_of_lt hindex)
    rw [← hfactor]
    rfl
  · have hfactor : exponential.factor index.toNat = 2 ^ index.toNat := by
      rw [factor_exponential, if_pos hindex]
    rw [← hfactor]
    rfl

/-- After the thirty-second attempt five billion seconds are still multiplied
exactly, with the whole seconds of their fraction; the pause after the next one is
cut. -/
theorem delayAfter_exact_fiveBillion :
    let base : Words := ⟨5000000000, 600000000, by decide⟩
    let delay (index : UInt32) := exponential.delayAfter base.toDuration index.toNat
    ((31 : UInt32).toNat < 32 ∧ (31 : UInt32) ≤ 32) ∧
    (delay 31).nanoseconds = min (base.total * 2 ^ 31) maxNanoseconds ∧
    base.total * 2 ^ 31 < maxNanoseconds ∧
    (exponential.delayInWords base 31).seconds = 10737418241288490188 ∧
    (delay 31).nanoseconds ≤ (delay 32).nanoseconds ∧
    (delay 32).nanoseconds = maxNanoseconds := by
  intro base delay
  have hindex : (31 : UInt32).toNat < 32 := by decide
  have hnext : (31 : UInt32) ≤ 32 := by decide
  obtain ⟨-, -, -, hexact, hmono, -⟩ := delayAfter_exact base 31
  exact ⟨⟨hindex, hnext⟩, hexact hindex, by decide, by decide +kernel,
    hmono exponential 32 hnext, by decide +kernel⟩

end Backoff

end Scenario
