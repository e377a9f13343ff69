import Mathlib.Order.Bounds.Basic
import Mathlib.Order.MinMax
import Scenario.Suggestion

/-!
# The edit distance

The distance of two texts is the least number of single edits that turn one
into the other (`Edits`). It is usually computed by recursion on the first
characters (`levenshtein`), while the table is filled from the last
characters of the beginnings of both texts. Edits have no direction, so they
carry everything: the recursion gives the least number of them
(`levenshtein_isLeast`), as it names the edits itself and no edit changes it
by more than one (`Edit.levenshtein_le`); and read backwards, edits are edits
of the reversed texts, which gives the recursion on last characters that the
table uses (`levenshtein_concat`).

While a row is written, the entries up to the column are distances of the
beginnings of both texts (`DistanceRows.Written`). The others are left from
an older row, but an entry is only computed from the row above and from the
entry before it, so nothing is known of them and nothing is needed. Main
statement: `editDistance_metric`.
-/

namespace Scenario.Suggestion

/-! ## Edits -/

/-- One character is inserted, deleted or replaced. -/
inductive Edit : List Char → List Char → Prop
  | insert (before after : List Char) (c : Char) : Edit (before ++ after) (before ++ c :: after)
  | delete (before after : List Char) (c : Char) : Edit (before ++ c :: after) (before ++ after)
  | replace (before after : List Char) (c d : Char) :
      Edit (before ++ c :: after) (before ++ d :: after)

/-- So many edits, one after another. -/
inductive Edits : Nat → List Char → List Char → Prop
  | none (text : List Char) : Edits 0 text text
  | more {n : Nat} {first second last : List Char} (hfirst : Edit first second)
      (hrest : Edits n second last) : Edits (n + 1) first last

theorem Edit.symm {left right : List Char} (h : Edit left right) : Edit right left := by
  cases h with
  | insert before after c => exact .delete before after c
  | delete before after c => exact .insert before after c
  | replace before after c d => exact .replace before after d c

theorem Edit.cons {left right : List Char} (h : Edit left right) (c : Char) :
    Edit (c :: left) (c :: right) := by
  cases h with
  | insert before after d => exact .insert (c :: before) after d
  | delete before after d => exact .delete (c :: before) after d
  | replace before after d d' => exact .replace (c :: before) after d d'

/-- Read backwards, an edit is an edit. -/
theorem Edit.reverse {left right : List Char} (h : Edit left right) :
    Edit left.reverse right.reverse := by
  cases h with
  | insert before after c => simpa using Edit.insert after.reverse before.reverse c
  | delete before after c => simpa using Edit.delete after.reverse before.reverse c
  | replace before after c d => simpa using Edit.replace after.reverse before.reverse c d

namespace Edits

variable {m n : Nat} {left middle right : List Char}

theorem trans (h : Edits m left middle) (h' : Edits n middle right) :
    Edits (m + n) left right := by
  induction h with
  | none => rwa [Nat.zero_add]
  | @more m _ _ _ hfirst _ ih =>
      rw [Nat.add_right_comm]
      exact .more hfirst (ih h')

theorem symm (h : Edits n left right) : Edits n right left := by
  induction h with
  | none text => exact .none text
  | more hfirst _ ih => exact ih.trans (.more hfirst.symm (.none _))

theorem cons (h : Edits n left right) (c : Char) : Edits n (c :: left) (c :: right) := by
  induction h with
  | none text => exact .none (c :: text)
  | more hfirst _ ih => exact .more (hfirst.cons c) ih

theorem reverse (h : Edits n left right) : Edits n left.reverse right.reverse := by
  induction h with
  | none text => exact .none text.reverse
  | more hfirst _ ih => exact .more hfirst.reverse ih

theorem zero_iff : Edits 0 left right ↔ left = right := by
  constructor
  · rintro ⟨⟩
    rfl
  · rintro rfl
    exact .none left

end Edits

/-! ## The recursion -/

/-- The distance of two texts by recursion on their first characters. -/
def levenshtein : List Char → List Char → Nat
  | [], right => right.length
  | _ :: left, [] => left.length + 1
  | c :: left, d :: right =>
    if c = d then levenshtein left right
    else
      1 + min (min (levenshtein left (d :: right)) (levenshtein (c :: left) right))
        (levenshtein left right)
termination_by left right => left.length + right.length

@[simp] theorem levenshtein_nil_left (right : List Char) :
    levenshtein [] right = right.length := by
  rw [levenshtein]

@[simp] theorem levenshtein_nil_right (left : List Char) :
    levenshtein left [] = left.length := by
  cases left with
  | nil => rw [levenshtein]
  | cons c left => rw [levenshtein, List.length_cons]

theorem levenshtein_self (text : List Char) : levenshtein text text = 0 := by
  induction text with
  | nil => simp
  | cons c text ih => rw [levenshtein, if_pos rfl, ih]

theorem levenshtein_comm (left right : List Char) :
    levenshtein left right = levenshtein right left := by
  fun_induction levenshtein left right with
  | case1 right => simp
  | case2 c left => simp
  | case3 left d right ih => rw [levenshtein, if_pos rfl, ih]
  | case4 c left d right hne ihleft ihright ihboth =>
      rw [levenshtein, if_neg (Ne.symm hne), ihleft, ihright, ihboth,
        Nat.min_comm (levenshtein _ _)]

/-- One character more changes the distance by at most one. -/
theorem levenshtein_cons_right (left right : List Char) (c : Char) :
    levenshtein left (c :: right) ≤ levenshtein left right + 1 ∧
      levenshtein left right ≤ levenshtein left (c :: right) + 1 := by
  cases left with
  | nil => simp; omega
  | cons d left =>
      have hshorter := levenshtein_cons_right left right c
      have hleft := levenshtein_cons_right right left d
      rw [levenshtein_comm right, levenshtein_comm right] at hleft
      rw [levenshtein.eq_def (d :: left) (c :: right)]
      dsimp only
      split
      · omega
      · omega
termination_by left.length + right.length

/-- What changes the distance from every text by at most one still does so
behind a common beginning. -/
theorem levenshtein_append_le {right right' : List Char}
    (h : ∀ left, levenshtein left right' ≤ levenshtein left right + 1)
    (before left : List Char) :
    levenshtein left (before ++ right') ≤ levenshtein left (before ++ right) + 1 := by
  induction before generalizing left with
  | nil => exact h left
  | cons c before ih =>
      rw [List.cons_append, List.cons_append]
      induction left with
      | nil => simpa using ih []
      | cons d left ihleft =>
          have hboth := ih left
          have hright := ih (d :: left)
          rw [levenshtein, levenshtein]
          split
          · exact hboth
          · omega

theorem levenshtein_replace_le (left after : List Char) (c d : Char) :
    levenshtein left (d :: after) ≤ levenshtein left (c :: after) + 1 := by
  cases left with
  | nil => simp
  | cons b left =>
      have hright := levenshtein_cons_right left after c
      have hleft := levenshtein_cons_right after left b
      rw [levenshtein_comm after, levenshtein_comm after] at hleft
      rw [levenshtein, levenshtein]
      split
      · split
        · omega
        · omega
      · split
        · omega
        · omega

/-- An edit changes the distance from any text by at most one. -/
theorem Edit.levenshtein_le {right right' : List Char} (h : Edit right right')
    (left : List Char) : levenshtein left right' ≤ levenshtein left right + 1 := by
  cases h with
  | insert before after c =>
      exact levenshtein_append_le (fun left => (levenshtein_cons_right left after c).1) before left
  | delete before after c =>
      exact levenshtein_append_le (fun left => (levenshtein_cons_right left after c).2) before left
  | replace before after c d =>
      exact levenshtein_append_le (fun left => levenshtein_replace_le left after c d) before left

theorem Edits.levenshtein_le {n : Nat} {right right' : List Char} (h : Edits n right right')
    (left : List Char) : levenshtein left right' ≤ levenshtein left right + n := by
  induction h with
  | none => exact Nat.le_refl _
  | more hfirst _ ih =>
      have hstep := hfirst.levenshtein_le left
      omega

theorem edits_delete (left : List Char) : Edits left.length left [] := by
  induction left with
  | nil => exact .none []
  | cons c left ih => exact .more (.delete [] left c) ih

/-- The recursion names the edits. -/
theorem edits_levenshtein (left right : List Char) :
    Edits (levenshtein left right) left right := by
  fun_induction levenshtein left right with
  | case1 right => exact (edits_delete right).symm
  | case2 c left => exact edits_delete (c :: left)
  | case3 left d right ih => exact ih.cons d
  | case4 c left d right hne ihleft ihright ihboth =>
      have hdelete := Edits.more (.delete [] left c) ihleft
      have hinsert := Edits.more (.insert [] (c :: left) d) (ihright.cons d)
      have hreplace := Edits.more (.replace [] left c d) (ihboth.cons d)
      rw [Nat.add_comm]
      rcases min_choice (min (levenshtein left (d :: right)) (levenshtein (c :: left) right))
          (levenshtein left right) with hmin | hmin
      · rw [hmin]
        rcases min_choice (levenshtein left (d :: right)) (levenshtein (c :: left) right)
            with hmin | hmin
        · rw [hmin]
          exact hdelete
        · rw [hmin]
          exact hinsert
      · rw [hmin]
        exact hreplace

/-- The recursion gives the least number of edits. -/
theorem levenshtein_isLeast (left right : List Char) :
    IsLeast {n | Edits n left right} (levenshtein left right) := by
  refine ⟨edits_levenshtein left right, fun n hedits => ?_⟩
  have hle := hedits.levenshtein_le left
  rwa [levenshtein_self, Nat.zero_add] at hle

/-! ## The recursion on last characters -/

/-- The distance does not depend on the direction in which texts are read. -/
theorem levenshtein_reverse (left right : List Char) :
    levenshtein left.reverse right.reverse = levenshtein left right := by
  apply Nat.le_antisymm
  · exact (levenshtein_isLeast _ _).2 (edits_levenshtein left right).reverse
  · have hedits := (edits_levenshtein left.reverse right.reverse).reverse
    rw [List.reverse_reverse, List.reverse_reverse] at hedits
    exact (levenshtein_isLeast left right).2 hedits

/-- The entry of the table from the three around it, on first characters. -/
theorem levenshtein_cons_cons (left right : List Char) (c d : Char) :
    levenshtein (c :: left) (d :: right) =
      min (min (levenshtein left right + if c = d then 0 else 1)
        (levenshtein left (d :: right) + 1)) (levenshtein (c :: left) right + 1) := by
  have hright := levenshtein_cons_right left right d
  have hleft := levenshtein_cons_right right left c
  rw [levenshtein_comm right, levenshtein_comm right] at hleft
  rw [levenshtein]
  split
  · omega
  · omega

/-- The entry of the table from the three around it. -/
theorem levenshtein_concat (left right : List Char) (c d : Char) :
    levenshtein (left ++ [c]) (right ++ [d]) =
      min (min (levenshtein left right + if c = d then 0 else 1)
        (levenshtein left (right ++ [d]) + 1)) (levenshtein (left ++ [c]) right + 1) := by
  have hcons := levenshtein_cons_cons left.reverse right.reverse c d
  rw [← List.reverse_concat, ← List.reverse_concat] at hcons
  simpa only [levenshtein_reverse] using hcons

/-! ## The table -/

/-- All that is kept of an invariant by the steps of a loop holds after it. -/
theorem fold_induction {α : Type} {n : Nat} {f : (i : Nat) → i < n → α → α} {start : α}
    (motive : Nat → α → Prop) (hstart : motive 0 start)
    (hstep : ∀ i (h : i < n) a, motive i a → motive (i + 1) (f i h a)) :
    motive n (n.fold f start) := by
  induction n with
  | zero => exact hstart
  | succ n ih =>
      rw [Nat.fold_succ]
      exact hstep n (Nat.lt_succ_self n) _ (ih fun i h => hstep i (Nat.lt_succ_of_lt h))

namespace DistanceRows

variable {right : List Char}

/-- The row above has the distances of `read` from all beginnings of the
right text. -/
def Complete (read : List Char) (rows : DistanceRows right.length) : Prop :=
  ∀ (column : Nat) (h : column ≤ right.length),
    rows.above[column] = levenshtein read (right.take column)

/-- Besides, the current row has those of one character more, as far as
`column`. -/
structure Written (read : List Char) (c : Char) (column : Nat)
    (rows : DistanceRows right.length) : Prop where
  complete : rows.Complete read
  current : ∀ (i : Nat) (_ : i ≤ column) (h : i ≤ right.length),
    rows.current[i] = levenshtein (read ++ [c]) (right.take i)

theorem start_complete : (start right.length).Complete [] := by
  intro column h
  simp [start, h]

theorem Written.write {read : List Char} {c : Char} {column : Nat}
    {rows : DistanceRows right.length} (h : rows.Written read c column)
    (hcolumn : column < right.length) :
    (rows.write (if c = right[column] then 0 else 1) column hcolumn).Written read c
      (column + 1) := by
  refine ⟨h.complete, fun i hi hlength => ?_⟩
  rcases Nat.lt_or_eq_of_le hi with hbefore | rfl
  · -- the entries before are not touched
    have hne : column + 1 ≠ i := by omega
    have hold := h.current i (by omega) hlength
    simpa [DistanceRows.write, Vector.getElem_set_ne, hne] using hold
  · have hentry := levenshtein_concat read (right.take column) c right[column]
    rw [← List.take_succ_eq_append_getElem hcolumn] at hentry
    rw [hentry, ← h.complete column (by omega), ← h.complete (column + 1) hlength,
      ← h.current column (by omega) (by omega)]
    simp [DistanceRows.write]

/-- The first entry of a row is the distance from the empty text. -/
theorem Complete.written_zero {read : List Char} {rows : DistanceRows right.length}
    (h : rows.Complete read) (c : Char) :
    Written read c 0 { rows with current := rows.current.set 0 (read.length + 1) } := by
  refine ⟨h, fun i hi _ => ?_⟩
  obtain rfl := Nat.le_zero.mp hi
  simp

/-- A row that is written to its end is the row above of the next. -/
theorem Complete.next {read : List Char} {rows : DistanceRows right.length}
    (h : rows.Complete read) (c : Char) :
    (rows.next ⟨right.toArray, rfl⟩ c read.length).Complete (read ++ [c]) := by
  have hwritten := fold_induction (Written read c) (h.written_zero c)
    fun column hcolumn _ hrows => hrows.write hcolumn
  exact fun column hcolumn => hwritten.current column hcolumn hcolumn

theorem foldl_complete (left read : List Char) {rows : DistanceRows right.length}
    (h : rows.Complete read) :
    ((left.zipIdx read.length).foldl
      (fun rows (c, row) => rows.next ⟨right.toArray, rfl⟩ c row) rows).Complete
        (read ++ left) := by
  induction left generalizing read rows with
  | nil => rwa [List.append_nil]
  | cons c left ih =>
      have hrest := ih (read ++ [c]) (h.next c)
      rw [List.append_assoc, List.singleton_append, List.length_append] at hrest
      exact hrest

end DistanceRows

theorem editDistance_eq_levenshtein (left right : List Char) :
    editDistance left right = levenshtein left right := by
  have hlast := DistanceRows.foldl_complete left [] DistanceRows.start_complete right.length
    (Nat.le_refl _)
  rwa [List.take_length, List.nil_append] at hlast

/-- **The edit distance.** The table gives the distance by recursion on first
characters, which is the least number of characters to insert, delete or
replace. So it is symmetric, zero between equal texts only, and a way around
by another text is no shorter. -/
theorem editDistance_metric (left right : String) :
    let distance (left right : String) := editDistance left.toList right.toList
    distance left right = levenshtein left.toList right.toList ∧
      IsLeast {n | Edits n left.toList right.toList} (distance left right) ∧
      distance right left = distance left right ∧
      (distance left right = 0 ↔ left = right) ∧
      ∀ between : String, distance left right ≤ distance left between + distance between right := by
  intro distance
  have heq (left right : String) :
      distance left right = levenshtein left.toList right.toList :=
    editDistance_eq_levenshtein left.toList right.toList
  have hleast (left right : String) :
      IsLeast {n | Edits n left.toList right.toList} (distance left right) := by
    rw [heq]
    exact levenshtein_isLeast left.toList right.toList
  refine ⟨heq left right, hleast left right, ?_, ?_, fun between => ?_⟩
  · rw [heq, heq, levenshtein_comm]
  · rw [← String.toList_inj, ← Edits.zero_iff]
    constructor
    · intro hzero
      exact hzero ▸ (hleast left right).1
    · intro hedits
      exact Nat.le_zero.mp ((hleast left right).2 hedits)
  · exact (hleast left right).2 ((hleast left between).1.trans (hleast between right).1)

example : editDistance "kitten".toList "sitting".toList = 3 := by decide

end Scenario.Suggestion
