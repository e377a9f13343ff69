import Mathlib.Data.List.DropRight
import Mathlib.Data.List.Infix
import Scenario.Text.Blank
import Scenario.Text.Search

/-!
# Occurrences in texts, and the ends of texts

What the search of `Scenario.Text.Search` finds, said without the search:
it fails exactly if the text has no such part (`splitFirst?_eq_none_iff`),
and what it gives is the first occurrence, the one that no other begins
before (`splitFirst?_eq_some_iff`).

A part that has a character at its ends at most occurs on one side of any
place where the text has that character (`infix_of_infix_append_cons`). So
in a text put together with blanks, a word can be looked for piece by piece.

Trimming leaves a text alone exactly if neither end is blank, and so it
leaves alone whatever has such a text at either end
(`trim_append_append`).

A separator splits a text into what it makes of the parts on its two sides
(`splitWhere_append_cons`).
-/

namespace Scenario.Text

/-! ## The first occurrence -/

theorem dropStart?_append (start rest : List Char) :
    dropStart? start (start ++ rest) = some rest := by
  induction start with
  | nil => rfl
  | cons s start ih => rw [List.cons_append, dropStart?, if_pos rfl, ih]

theorem dropStart?_eq_none_iff {start text : List Char} :
    dropStart? start text = none ↔ ¬start <+: text := by
  constructor
  · rintro h ⟨rest, rfl⟩
    rw [dropStart?_append] at h
    cases h
  · intro h
    cases hdrop : dropStart? start text with
    | none => rfl
    | some rest => exact absurd ⟨rest, (dropStart?_eq_some hdrop).symm⟩ h

theorem dropStart?_eq_some_iff {start text rest : List Char} :
    dropStart? start text = some rest ↔ text = start ++ rest :=
  ⟨dropStart?_eq_some, fun h => h ▸ dropStart?_append start rest⟩

/-- The search fails exactly if there is no occurrence. -/
theorem splitFirst?_eq_none_iff {part text : List Char} :
    splitFirst? part text = none ↔ ¬part <:+: text := by
  induction text with
  | nil =>
      rw [splitFirst?, Option.map_eq_none_iff, dropStart?_eq_none_iff, List.prefix_nil,
        List.infix_nil]
  | cons c cs ih =>
      rw [splitFirst?, List.infix_cons_iff, not_or, ← dropStart?_eq_none_iff, ← ih]
      cases dropStart? part (c :: cs) <;> simp

theorem occursIn_iff {part text : List Char} : occursIn part text = true ↔ part <:+: text := by
  rw [occursIn, Option.isSome_iff_ne_none, ne_eq, splitFirst?_eq_none_iff, not_not]

theorem occursIn_eq_false_iff {part text : List Char} :
    occursIn part text = false ↔ ¬part <:+: text := by
  rw [← occursIn_iff, Bool.not_eq_true]

/-- A part is longer than itself without its last character. -/
theorem not_infix_dropLast {part : List Char} (h : part ≠ []) : ¬part <:+: part.dropLast := by
  intro hinfix
  have hlength := hinfix.length_le
  have hpos := List.length_pos_of_ne_nil h
  rw [List.length_dropLast] at hlength
  omega

/-- No occurrence begins before the one that is found. -/
theorem not_infix_of_splitFirst? {part text before rest : List Char} (h : part ≠ [])
    (hsplit : splitFirst? part text = some (before, rest)) :
    ¬part <:+: before ++ part.dropLast := by
  induction text generalizing before with
  | nil =>
      have hnil := splitFirst?_eq hsplit
      simp only [List.nil_eq, List.append_eq_nil_iff] at hnil
      exact absurd hnil.1.2 h
  | cons c cs ih =>
      rw [splitFirst?] at hsplit
      cases hdrop : dropStart? part (c :: cs) with
      | some found =>
          simp only [hdrop, Option.some.injEq, Prod.mk.injEq] at hsplit
          obtain ⟨rfl, -⟩ := hsplit
          exact not_infix_dropLast h
      | none =>
          simp only [hdrop, Option.map_eq_some_iff, Prod.mk.injEq, Prod.exists] at hsplit
          obtain ⟨earlier, later, hcs, rfl, rfl⟩ := hsplit
          rw [List.cons_append, List.infix_cons_iff, not_or]
          refine ⟨fun hbegins => ?_, ih hcs⟩
          -- the part would begin at the first character of the text
          refine dropStart?_eq_none_iff.mp hdrop (hbegins.trans ?_)
          rw [splitFirst?_eq hcs, List.append_assoc, List.prefix_cons_inj,
            List.prefix_append_right_inj]
          exact (List.dropLast_prefix part).trans (List.prefix_append part later)

/-- An occurrence that no other begins before is found. -/
theorem splitFirst?_append {part before : List Char} (h : part ≠ [])
    (hfirst : ¬part <:+: before ++ part.dropLast) (rest : List Char) :
    splitFirst? part (before ++ part ++ rest) = some (before, rest) := by
  induction before with
  | nil =>
      obtain ⟨c, cs, rfl⟩ := List.exists_cons_of_ne_nil h
      have hdrop := dropStart?_append (c :: cs) rest
      rw [List.nil_append]
      rw [List.cons_append] at hdrop ⊢
      rw [splitFirst?, hdrop]
  | cons c before ih =>
      rw [List.cons_append, List.infix_cons_iff, not_or] at hfirst
      have hdrop : dropStart? part (c :: (before ++ part ++ rest)) = none := by
        rw [dropStart?_eq_none_iff]
        intro hbegins
        refine hfirst.1 (List.prefix_of_prefix_length_le hbegins ?_ ?_)
        · rw [List.append_assoc, List.prefix_cons_inj, List.prefix_append_right_inj]
          exact (List.dropLast_prefix part).trans (List.prefix_append part rest)
        · have hpos := List.length_pos_of_ne_nil h
          simp only [List.length_cons, List.length_append, List.length_dropLast]
          omega
      rw [List.cons_append, List.cons_append, splitFirst?, hdrop, ih hfirst.2]
      rfl

/-- The search gives the first occurrence: the text before it together with
all of the part but its last character has none. -/
theorem splitFirst?_eq_some_iff {part text before rest : List Char} (h : part ≠ []) :
    splitFirst? part text = some (before, rest) ↔
      text = before ++ part ++ rest ∧ ¬part <:+: before ++ part.dropLast := by
  constructor
  · intro hsplit
    exact ⟨splitFirst?_eq hsplit, not_infix_of_splitFirst? h hsplit⟩
  · rintro ⟨rfl, hfirst⟩
    exact splitFirst?_append h hfirst rest

/-! ## Occurrences around a character -/

/-- A part without the character inside lies before it or after it, and may
share it. -/
theorem infix_of_infix_append_cons {part left right : List Char} {c : Char}
    (hinside : c ∉ part.tail.dropLast) (h : part <:+: left ++ c :: right) :
    part <:+: left ++ [c] ∨ part <:+: c :: right := by
  rw [List.append_cons, List.infix_append_iff] at h
  rcases h with hleft | hright | ⟨before, after, rfl, hbefore, hafter⟩
  · exact .inl hleft
  · exact .inr (hright.trans (List.suffix_cons c right).isInfix)
  · rcases List.eq_nil_or_concat before with rfl | ⟨start, last, rfl⟩
    · exact .inr (hafter.isInfix.trans (List.suffix_cons c right).isInfix)
    · -- the part ends with the character, begins with it, or has it inside
      rw [List.concat_eq_append] at hbefore hinside ⊢
      obtain rfl : last = c := by
        obtain ⟨others, hothers⟩ := hbefore
        rw [← List.append_assoc] at hothers
        exact List.singleton_inj.mp (List.append_inj' hothers rfl).2
      rcases List.eq_nil_or_concat after with rfl | ⟨middle, final, rfl⟩
      · rw [List.append_nil]
        exact .inl hbefore.isInfix
      · cases start with
        | nil => exact .inr (List.prefix_cons_inj last |>.mpr hafter).isInfix
        | cons s start =>
            refine absurd ?_ hinside
            rw [List.concat_eq_append, ← List.append_assoc, List.cons_append, List.cons_append,
              List.cons_append, List.tail_cons, List.dropLast_concat]
            simp

/-- A part that does not have the last character of a text lies before it. -/
theorem infix_of_infix_concat {part text : List Char} {c : Char} (hc : c ∉ part)
    (h : part <:+: text ++ [c]) : part <:+: text := by
  rw [List.infix_concat_iff, List.suffix_concat_iff] at h
  rcases h with (rfl | ⟨start, rfl, -⟩) | h
  · exact List.nil_infix
  · exact absurd (List.mem_append_right start (List.mem_singleton_self c)) hc
  · exact h

theorem infix_of_infix_cons {part text : List Char} {c : Char} (hc : c ∉ part)
    (h : part <:+: c :: text) : part <:+: text := by
  rw [List.infix_cons_iff, List.prefix_cons_iff] at h
  rcases h with (rfl | ⟨rest, rfl, -⟩) | h
  · exact List.nil_infix
  · exact absurd List.mem_cons_self hc
  · exact h

/-! ## Trimmed texts -/

theorem dropEndWhile_eq (p : Char → Bool) (cs : List Char) :
    dropEndWhile p cs = cs.rdropWhile p := rfl

theorem trim_infix (cs : List Char) : trim cs <:+: cs := by
  rw [trim, trimWhere, dropEndWhile_eq]
  exact (List.rdropWhile_prefix _ _).isInfix.trans (List.dropWhile_suffix _).isInfix

theorem mem_dropWhile {p : Char → Bool} {c : Char} {cs : List Char} (hc : c ∈ cs)
    (hp : ¬p c = true) : c ∈ cs.dropWhile p := by
  rw [← List.takeWhile_append_dropWhile (p := p) (l := cs), List.mem_append] at hc
  exact hc.resolve_left fun htaken => hp (List.mem_takeWhile_imp htaken)

theorem mem_trim {c : Char} {cs : List Char} (hc : c ∈ cs) (hblank : ¬isBlank c = true) :
    c ∈ trim cs := by
  rw [trim, trimWhere, dropEndWhile, List.mem_reverse]
  exact mem_dropWhile (List.mem_reverse.mpr (mem_dropWhile hc hblank)) hblank

theorem trim_eq_self_iff {cs : List Char} :
    trim cs = cs ↔ cs.dropWhile isBlank = cs ∧ cs.rdropWhile isBlank = cs := by
  constructor
  · intro h
    rw [trim, trimWhere, dropEndWhile_eq] at h
    have hstart : cs.dropWhile isBlank = cs := by
      refine (List.dropWhile_suffix isBlank).eq_of_length_le ?_
      have hlength := (List.rdropWhile_prefix isBlank (l := cs.dropWhile isBlank)).length_le
      rwa [h] at hlength
    exact ⟨hstart, by rwa [hstart] at h⟩
  · rintro ⟨hstart, hend⟩
    rw [trim, trimWhere, dropEndWhile_eq, hstart, hend]

theorem trim_toList_of_trimmed {text : String} (h : trimmed text = text) :
    trim text.toList = text.toList := by
  have heq := congrArg String.toList h
  rwa [trimmed, String.toList_ofList] at heq

theorem dropWhile_append_of_eq_self {p : Char → Bool} {cs : List Char} (h : cs.dropWhile p = cs)
    (hne : cs ≠ []) (rest : List Char) : (cs ++ rest).dropWhile p = cs ++ rest := by
  obtain ⟨c, cs, rfl⟩ := List.exists_cons_of_ne_nil hne
  have hc : ¬p c = true := by
    intro hc
    rw [List.dropWhile_cons_of_pos hc] at h
    have hlength := (List.dropWhile_suffix p (l := cs)).length_le
    rw [h, List.length_cons] at hlength
    omega
  rw [List.cons_append, List.dropWhile_cons_of_neg hc]

theorem rdropWhile_append_of_eq_self {p : Char → Bool} {cs : List Char}
    (h : cs.rdropWhile p = cs) (hne : cs ≠ []) (before : List Char) :
    (before ++ cs).rdropWhile p = before ++ cs := by
  have hreverse : cs.reverse.dropWhile p = cs.reverse := by
    rw [← List.reverse_inj, List.reverse_reverse]
    exact h
  rw [List.rdropWhile, List.reverse_append,
    dropWhile_append_of_eq_self hreverse (by simpa using hne), ← List.reverse_append,
    List.reverse_reverse]

/-- A text between two trimmed ones makes a trimmed one. -/
theorem trim_append_append {left right : List Char} (hleft : trim left = left)
    (hleftNe : left ≠ []) (hright : trim right = right) (hrightNe : right ≠ [])
    (middle : List Char) : trim (left ++ middle ++ right) = left ++ middle ++ right := by
  obtain ⟨hstart, -⟩ := trim_eq_self_iff.mp hleft
  obtain ⟨-, hend⟩ := trim_eq_self_iff.mp hright
  refine trim_eq_self_iff.mpr ⟨?_, rdropWhile_append_of_eq_self hend hrightNe _⟩
  rw [List.append_assoc]
  exact dropWhile_append_of_eq_self hstart hleftNe _

theorem trim_cons_of_blank {c : Char} (hc : isBlank c = true) (cs : List Char) :
    trim (c :: cs) = trim cs := by
  rw [trim, trimWhere, List.dropWhile_cons_of_pos hc]
  rfl

theorem trim_concat_of_blank {c : Char} (hc : isBlank c = true) {cs : List Char}
    (h : trim cs = cs) (hne : cs ≠ []) : trim (cs ++ [c]) = cs := by
  obtain ⟨hstart, hend⟩ := trim_eq_self_iff.mp h
  rw [trim, trimWhere, dropEndWhile_eq, dropWhile_append_of_eq_self hstart hne,
    List.rdropWhile_concat_pos _ _ _ hc, hend]

theorem rdropWhile_append_cons {p : Char → Bool} {c : Char} (hc : ¬p c = true)
    (left right : List Char) :
    (left ++ c :: right).rdropWhile p = left ++ c :: right.rdropWhile p := by
  induction right using List.reverseRecOn with
  | nil => rw [List.rdropWhile_nil, List.rdropWhile_concat_neg _ _ _ hc]
  | append_singleton right last ih =>
      rw [← List.cons_append, ← List.append_assoc]
      by_cases hlast : p last = true
      · rw [List.rdropWhile_concat_pos _ _ _ hlast, List.rdropWhile_concat_pos _ _ _ hlast, ih]
      · rw [List.rdropWhile_concat_neg _ _ _ hlast, List.rdropWhile_concat_neg _ _ _ hlast,
          List.append_assoc, List.cons_append]

/-- Up to a character that is not blank a text is trimmed at its start only. -/
theorem trim_append_cons {left : List Char} {c : Char} (hleft : left.dropWhile isBlank = left)
    (hc : isBlank c = false) (right : List Char) :
    trim (left ++ c :: right) = left ++ c :: right.rdropWhile isBlank := by
  have hstays : ¬isBlank c = true := Bool.eq_false_iff.mp hc
  have hstart : (left ++ c :: right).dropWhile isBlank = left ++ c :: right := by
    cases left with
    | nil => exact List.dropWhile_cons_of_neg hstays
    | cons first rest => exact dropWhile_append_of_eq_self hleft (List.cons_ne_nil _ _) _
  rw [trim, trimWhere, dropEndWhile_eq, hstart, rdropWhile_append_cons hstays]

/-! ## Texts that are split -/

theorem splitWhere_of_forall {p : Char → Bool} {part : List Char}
    (h : ∀ c ∈ part, p c = false) : splitWhere p part = [part] := by
  induction part with
  | nil => rfl
  | cons c part ih =>
      rw [List.forall_mem_cons] at h
      rw [splitWhere, if_neg (Bool.eq_false_iff.mp h.1), ih h.2]

/-- A separator cuts a text in two that are split apart. -/
theorem splitWhere_append_cons {p : Char → Bool} {c : Char} (hc : p c = true)
    (left right : List Char) :
    splitWhere p (left ++ c :: right) = splitWhere p left ++ splitWhere p right := by
  induction left with
  | nil => exact if_pos hc
  | cons d left ih =>
      rw [List.cons_append, splitWhere, splitWhere, ih]
      split
      · rfl
      · -- the first stretch on the left grows, and there always is one
        obtain ⟨part, parts, hparts⟩ := List.exists_cons_of_ne_nil (splitWhere_ne_nil p left)
        rw [hparts]
        rfl

end Scenario.Text
