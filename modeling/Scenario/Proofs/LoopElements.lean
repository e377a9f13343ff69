import Mathlib.Data.Int.Interval
import Scenario.Proofs.Unrolling

/-!
# The items of ranges and counts

A range of 64-bit integers has `stop + 1 - start` items. That number fits into
64 bits but for one range, the one of all 64-bit integers, and a length that does
not fit is cut (`LoopSpec.length_range_eq_iff`). An item is cut as well if it is
too large, but none of a range is: it lies between the ends
(`LoopSpec.itemAt_range`).

So the items of a range are the integers between its ends, and of the one
exception the last is missing. A count is the range from one. Main statement:
`LoopSpec.elements_range_iff`.
-/

namespace Scenario.LoopSpec

open Scenario.Text

theorem length_range_eq_iff (start stop : Int64) :
    (range start.toInt stop.toInt).length = (stop.toInt + 1 - start.toInt).toNat ↔
      ¬(start = .minValue ∧ stop = .maxValue) := by
  have hstart := start.le_toInt
  have hstop := stop.toInt_lt
  rw [← Int64.toInt_inj, ← Int64.toInt_inj, Int64.toInt_minValue, Int64.toInt_maxValue]
  rw [length, wordLimit]
  split <;> omega

theorem length_range_le (start stop : Int64) :
    (range start.toInt stop.toInt).length ≤ (stop.toInt + 1 - start.toInt).toNat := by
  rw [length]
  split <;> omega

theorem itemAt_range {start stop : Int64} {k : Nat}
    (hk : k < (range start.toInt stop.toInt).length) :
    (range start.toInt stop.toInt).itemAt k = .ofInt (start.toInt + k) := by
  have hlength := length_range_le start stop
  have hstop := stop.toInt_lt
  have hfits : min (start.toInt + k) 0x7fffffffffffffff = start.toInt + k := by omega
  rw [itemAt, hfits]

theorem elements_range (start stop : Int64) :
    (range start.toInt stop.toInt).elements =
      ((List.range (range start.toInt stop.toInt).length).map fun k : Nat =>
        start.toInt + (k : Int)).map .ofInt := by
  rw [elements, List.map_map]
  exact List.map_congr_left fun k hk => itemAt_range (List.mem_range.mp hk)

/-- The integers between two ends, in order and each once. -/
structure Enumerates (integers : List Int) (start stop : Int) : Prop where
  in_order : integers.Pairwise (· < ·)
  mem_iff : ∀ i, i ∈ integers ↔ start ≤ i ∧ i ≤ stop

theorem Enumerates.length_eq {integers : List Int} {start stop : Int}
    (h : Enumerates integers start stop) : integers.length = (stop + 1 - start).toNat := by
  have hset : integers.toFinset = Finset.Icc start stop := by
    ext i
    rw [List.mem_toFinset, h.mem_iff, Finset.mem_Icc]
  rw [← List.toFinset_card_of_nodup (h.in_order.imp ne_of_lt), hset, Int.card_Icc]

theorem enumerates_map_range (start stop : Int) :
    Enumerates ((List.range (stop + 1 - start).toNat).map fun k : Nat => start + (k : Int))
      start stop := by
  constructor
  · rw [List.pairwise_map]
    refine List.pairwise_lt_range.imp fun hlt => ?_
    omega
  · intro i
    simp only [List.mem_map, List.mem_range]
    constructor
    · rintro ⟨k, hk, rfl⟩
      omega
    · rintro ⟨hlow, hhigh⟩
      exact ⟨(i - start).toNat, by omega, by omega⟩

/-- **The items of ranges and counts.** A loop over a range of 64-bit integers
runs over exactly the integers between the ends, in order and each once, unless
the range is that of all of them; and a count of at most the largest 64-bit
integer has the length and the items of the range from one. -/
theorem elements_range_iff :
    (∀ start stop : Int64,
      (∃ integers, (range start.toInt stop.toInt).elements = integers.map .ofInt ∧
        Enumerates integers start.toInt stop.toInt) ↔
      ¬(start = .minValue ∧ stop = .maxValue)) ∧
    ∀ n : Nat, n ≤ Int64.maxValue.toInt.toNat →
      (count n).length = (range 1 n).length ∧ (count n).elements = (range 1 n).elements := by
  constructor
  · intro start stop
    rw [← length_range_eq_iff]
    constructor
    · rintro ⟨integers, helements, henumerates⟩
      rw [← henumerates.length_eq, ← List.length_map, ← helements, elements, List.length_map,
        List.length_range]
    · intro hlength
      refine ⟨_, elements_range start stop, ?_⟩
      rw [hlength]
      exact enumerates_map_range start.toInt stop.toInt
  · intro n hn
    rw [Int64.toInt_maxValue] at hn
    -- the length of the range is not cut, since `n` is below half the limit
    have hlength : (count n).length = (range 1 n).length := by
      rw [length, length, wordLimit]
      split <;> omega
    refine ⟨hlength, ?_⟩
    rw [elements, elements, ← hlength]
    refine List.map_congr_left fun k hk => ?_
    rw [List.mem_range, length] at hk
    have hword : (k + 1) % (wordLimit + 1) = k + 1 := Nat.mod_eq_of_lt (by unfold wordLimit; omega)
    have hfits : min (1 + (k : Int)) 0x7fffffffffffffff = ((k + 1 : Nat) : Int) := by omega
    rw [itemAt, itemAt, hword, hfits]
    rfl

/-- The last two integers are both visited, the largest count has its length,
and the loop over all integers misses one. -/
theorem elements_range_iff_ends :
    9223372036854775807 ≤ Int64.maxValue.toInt.toNat ∧
      (∃ integers, (range 9223372036854775806 9223372036854775807).elements =
          integers.map .ofInt ∧
        Enumerates integers 9223372036854775806 9223372036854775807) ∧
      (count 9223372036854775807).length = (range 1 9223372036854775807).length ∧
      ¬∃ integers, (range (-9223372036854775808) 9223372036854775807).elements =
          integers.map .ofInt ∧
        Enumerates integers (-9223372036854775808) 9223372036854775807 := by
  have hlargest : 9223372036854775807 ≤ Int64.maxValue.toInt.toNat := by decide
  have hother : ¬(Int64.maxValue - 1 = .minValue ∧ Int64.maxValue = .maxValue) := by decide
  obtain ⟨hranges, hcounts⟩ := elements_range_iff
  have hlast := (hranges (Int64.maxValue - 1) Int64.maxValue).mpr hother
  have hwidest := (hranges Int64.minValue Int64.maxValue).not.mpr (not_not.mpr ⟨rfl, rfl⟩)
  exact ⟨hlargest, hlast, (hcounts _ hlargest).1, hwidest⟩

end Scenario.LoopSpec
