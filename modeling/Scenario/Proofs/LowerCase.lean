import Mathlib.Data.List.Basic
import Scenario.Text.Case

/-!
# Lower case, place by place

The lower-case form of a text has a part for each of its characters, one
after another (`lowercase`). Only the part of a capital sigma depends on the
characters around it: it is the final form where a word ends (`EndsWord`).
The scan that lowers a text keeps what it has read backwards, so the letters
before a sigma and those after it are looked for in the same way
(`startsCased_iff`).

Upper and lower case of an ASCII letter are both cased, neither is
case-ignorable, and they have one lower-case form. So the case of ASCII
letters has no part in a lower-case form (`lowercase_map_toLower`). Main
statement: `lower_eq_lowercase`.
-/

namespace Scenario.Text

/-! ## The end of a word -/

/-- The first character that is not case-ignorable has a case. -/
def MeetsCased (cs : List Char) : Prop :=
  ∃ between c rest, cs = between ++ c :: rest ∧ (∀ d ∈ between, isCaseIgnorable d = true) ∧
    isCaseIgnorable c = false ∧ isCased c = true

/-- A word ends between these characters: there is a cased one before, and
none after. -/
def EndsWord (before after : List Char) : Prop :=
  MeetsCased before.reverse ∧ ¬MeetsCased after

theorem startsCased_cons (c : Char) (cs : List Char) :
    startsCased (c :: cs) = if isCaseIgnorable c then startsCased cs else isCased c := by
  cases hc : isCaseIgnorable c with
  | true => rw [startsCased, List.dropWhile_cons_of_pos hc, if_pos rfl, startsCased]
  | false => rw [startsCased, List.dropWhile_cons_of_neg (by simp [hc]), if_neg Bool.false_ne_true]

theorem startsCased_iff {cs : List Char} : startsCased cs = true ↔ MeetsCased cs := by
  constructor
  · intro h
    induction cs with
    | nil => cases h
    | cons c cs ih =>
        rw [startsCased_cons] at h
        split at h
        · next hc =>
            obtain ⟨between, d, rest, rfl, hbetween, hd⟩ := ih h
            exact ⟨c :: between, d, rest, rfl, List.forall_mem_cons.mpr ⟨hc, hbetween⟩, hd⟩
        · next hc => exact ⟨[], c, cs, rfl, nofun, Bool.not_eq_true _ ▸ hc, h⟩
  · rintro ⟨between, c, rest, rfl, hbetween, hc, hcased⟩
    induction between with
    | nil => rw [List.nil_append, startsCased_cons, hc, hcased, if_neg Bool.false_ne_true]
    | cons d between ih =>
        obtain ⟨hd, hbetween⟩ := List.forall_mem_cons.mp hbetween
        rw [List.cons_append, startsCased_cons, if_pos hd]
        exact ih hbetween

instance (cs : List Char) : Decidable (MeetsCased cs) :=
  decidable_of_iff _ startsCased_iff

instance (before after : List Char) : Decidable (EndsWord before after) :=
  inferInstanceAs (Decidable (_ ∧ _))

/-! ## Lower case -/

/-- What becomes of a character between those before and after it. -/
def lowercaseAt (before : List Char) (c : Char) (after : List Char) : List Char :=
  if c = 'Σ' then [if EndsWord before after then 'ς' else 'σ'] else lowerChar c

/-- What becomes of each character of a text at its place. -/
def lowercase (text : List Char) : List Char :=
  text.zipIdx.flatMap fun entry =>
    lowercaseAt (text.take entry.2) entry.1 (text.drop (entry.2 + 1))

theorem toNat_eq_sigma_iff {c : Char} : c.toNat = 0x3a3 ↔ c = 'Σ' :=
  ⟨fun h => Char.toNat_inj.mp h, fun h => h ▸ rfl⟩

theorem endsWord_iff {before after : List Char} :
    (startsCased before.reverse && !startsCased after) = true ↔ EndsWord before after := by
  rw [Bool.and_eq_true, Bool.not_eq_true', ← Bool.not_eq_true, startsCased_iff, startsCased_iff,
    EndsWord]

theorem lowerAfter_cons (before cs : List Char) (c : Char) :
    lowerAfter before.reverse (c :: cs) =
      lowercaseAt before c cs ++ lowerAfter (before ++ [c]).reverse cs := by
  rw [lowerAfter, List.reverse_concat, lowercaseAt]
  simp only [toNat_eq_sigma_iff, endsWord_iff]
  split
  · split
    · rfl
    · rfl
  · rfl

theorem lower_eq_lowercase (text : List Char) : lower text = lowercase text := by
  have hfrom (before cs : List Char) (htext : text = before ++ cs) :
      lowerAfter before.reverse cs = (cs.zipIdx before.length).flatMap fun entry =>
        lowercaseAt (text.take entry.2) entry.1 (text.drop (entry.2 + 1)) := by
    induction cs generalizing before with
    | nil => rfl
    | cons c cs ih =>
        have htake : text.take before.length = before := by rw [htext, List.take_left]
        have hdrop : text.drop (before.length + 1) = cs := by simp [htext]
        have hrest := ih (before ++ [c]) (by rw [htext, List.append_cons])
        rw [List.length_append, List.length_singleton] at hrest
        rw [lowerAfter_cons, hrest, List.zipIdx_cons, List.flatMap_cons]
        dsimp only
        rw [htake, hdrop]
  exact hfrom [] text rfl

example : lower "ΟΔΟΣ, Σ Ᲊ".toList = "οδος, σ ᲊ".toList := by decide +kernel

theorem lowerChar_ne_nil (c : Char) : lowerChar c ≠ [] := by
  unfold lowerChar
  split
  · exact List.cons_ne_nil _ _
  · split
    · exact List.cons_ne_nil _ _
    · split <;> exact List.cons_ne_nil _ _

theorem lowercaseAt_ne_nil (before : List Char) (c : Char) (after : List Char) :
    lowercaseAt before c after ≠ [] := by
  unfold lowercaseAt
  split
  · exact List.cons_ne_nil _ _
  · exact lowerChar_ne_nil c

theorem lower_eq_nil_iff {cs : List Char} : lower cs = [] ↔ cs = [] := by
  cases cs with
  | nil => exact ⟨fun _ => rfl, fun _ => rfl⟩
  | cons c cs =>
      refine ⟨fun h => ?_, nofun⟩
      have hparts := (lowerAfter_cons [] cs c).symm.trans h
      exact absurd (List.append_eq_nil_iff.mp hparts).1 (lowercaseAt_ne_nil [] c cs)

theorem lower_toList_ne_nil {name : String} : lower name.toList ≠ [] ↔ name ≠ "" := by
  rw [ne_eq, lower_eq_nil_iff, String.toList_eq_nil_iff]

/-! ## The case of ASCII letters -/

def upperLetters : List Char :=
  (List.range 26).map fun k => Char.ofNat (0x41 + k)

theorem mem_upperLetters {c : Char} (h : 'A' ≤ c ∧ c ≤ 'Z') : c ∈ upperLetters := by
  have hfirst : 0x41 ≤ c.toNat := h.1
  have hlast : c.toNat ≤ 0x5a := h.2
  refine List.mem_map.mpr ⟨c.toNat - 0x41, List.mem_range.mpr (by omega), ?_⟩
  rw [Nat.add_sub_cancel' hfirst, Char.ofNat_toNat]

theorem toLower_eq_self {c : Char} (h : c ∉ upperLetters) : c.toLower = c :=
  dif_neg fun hupper => h (mem_upperLetters hupper)

theorem lowerAscii_eq_toLower (c : Char) : lowerAscii c = c.toLower := by
  by_cases hc : c ∈ upperLetters
  · have hmap : upperLetters.map lowerAscii = upperLetters.map Char.toLower := by decide
    exact List.map_inj_left.mp hmap c hc
  · rw [toLower_eq_self hc, lowerAscii, if_neg fun hupper => hc (mem_upperLetters hupper)]

/-- What is the same for both cases of an ASCII letter does not see
`toLower`. -/
theorem apply_toLower {α : Type} {f : Char → α}
    (h : (upperLetters.map fun c => f c.toLower) = upperLetters.map f) (c : Char) :
    f c.toLower = f c := by
  by_cases hc : c ∈ upperLetters
  · exact List.map_inj_left.mp h c hc
  · rw [toLower_eq_self hc]

theorem lowerChar_toLower (c : Char) : lowerChar c.toLower = lowerChar c :=
  apply_toLower (by decide) c

theorem toLower_eq_sigma_iff (c : Char) : c.toLower = 'Σ' ↔ c = 'Σ' := by
  have hsame := apply_toLower (f := fun c => decide (c = 'Σ')) (by decide) c
  exact decide_eq_decide.mp hsame

theorem startsCased_map_toLower (cs : List Char) :
    startsCased (cs.map Char.toLower) = startsCased cs := by
  induction cs with
  | nil => rfl
  | cons c cs ih =>
      rw [List.map_cons, startsCased_cons, startsCased_cons, ih,
        apply_toLower (f := isCaseIgnorable) (by decide +kernel) c,
        apply_toLower (f := isCased) (by decide +kernel) c]

theorem endsWord_map_toLower (before after : List Char) :
    EndsWord (before.map Char.toLower) (after.map Char.toLower) ↔ EndsWord before after := by
  rw [← endsWord_iff, ← endsWord_iff, ← List.map_reverse, startsCased_map_toLower,
    startsCased_map_toLower]

theorem lowercaseAt_map_toLower (before : List Char) (c : Char) (after : List Char) :
    lowercaseAt (before.map Char.toLower) c.toLower (after.map Char.toLower) =
      lowercaseAt before c after := by
  simp only [lowercaseAt, toLower_eq_sigma_iff, endsWord_map_toLower, lowerChar_toLower]

/-- Texts that differ in the case of ASCII letters only have one lower-case
form. -/
theorem lowercase_map_toLower (text : List Char) :
    lowercase (text.map Char.toLower) = lowercase text := by
  rw [lowercase, lowercase, List.zipIdx_map, List.flatMap_map]
  refine List.flatMap_congr fun entry _ => ?_
  rw [Prod.map_fst, Prod.map_snd, id, ← List.map_take, ← List.map_drop]
  exact lowercaseAt_map_toLower _ entry.1 _

/-- The lower-case form of an ASCII text. -/
theorem lowercase_of_ascii {text : List Char} (h : ∀ c ∈ text, c.toNat < 0x80) :
    lowercase text = text.map Char.toLower := by
  have hat : ∀ entry ∈ text.zipIdx,
      lowercaseAt (text.take entry.2) entry.1 (text.drop (entry.2 + 1)) = [entry.1.toLower] := by
    intro entry hentry
    have hc := h _ (List.fst_mem_of_mem_zipIdx hentry)
    have hsigma : entry.1 ≠ 'Σ' := by
      intro heq
      rw [heq] at hc
      exact absurd hc (by decide)
    rw [lowercaseAt, if_neg hsigma, lowerChar, if_pos hc, lowerAscii_eq_toLower]
  calc
    lowercase text = (text.zipIdx.map Prod.fst).map Char.toLower := by
      rw [lowercase, List.flatMap_congr hat, ← List.map_eq_flatMap, List.map_map]
      rfl
    _ = text.map Char.toLower := by rw [List.zipIdx_map_fst]

end Scenario.Text
