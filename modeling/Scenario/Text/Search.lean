/-!
# Searching and splitting character lists

Finding one text inside another, and cutting a text at a separator. All
functions scan from the left, and the first occurrence wins.

`splitFirst?_eq` states what a split returns: the two parts around the
separator put the text together again.
-/

namespace Scenario.Text

/-- What follows `start`, if the text begins with it. -/
def dropStart? : (start text : List Char) → Option (List Char)
  | [], text => some text
  | _ :: _, [] => none
  | s :: start, c :: text => if s = c then dropStart? start text else none

/-- The parts before and after the first occurrence of `separator`. -/
def splitFirst? (separator : List Char) : List Char → Option (List Char × List Char)
  | [] => (dropStart? separator []).map fun rest => ([], rest)
  | c :: cs =>
    match dropStart? separator (c :: cs) with
    | some rest => some ([], rest)
    | none => (splitFirst? separator cs).map fun (before, rest) => (c :: before, rest)

/-- Whether `part` occurs somewhere in the text. -/
def occursIn (part text : List Char) : Bool :=
  (splitFirst? part text).isSome

/-- The stretches between the characters that satisfy `p`; the empty text
is one empty stretch. -/
def splitWhere (p : Char → Bool) : List Char → List (List Char)
  | [] => [[]]
  | c :: cs =>
    if p c then
      [] :: splitWhere p cs
    else
      match splitWhere p cs with
      | [] => [[c]]
      | part :: parts => (c :: part) :: parts

/-- The parts between the occurrences of a separator character. -/
def splitAt (separator : Char) (cs : List Char) : List (List Char) :=
  splitWhere (· == separator) cs

theorem dropStart?_eq_some {start text rest : List Char} (h : dropStart? start text = some rest) :
    text = start ++ rest := by
  fun_induction dropStart? start text with
  | case1 text => simpa using h
  | case2 => cases h
  | case3 start c text ih => simpa using ih h
  | case4 => cases h

theorem splitFirst?_eq {separator text before rest : List Char}
    (h : splitFirst? separator text = some (before, rest)) :
    text = before ++ separator ++ rest := by
  induction text generalizing before with
  | nil =>
      simp only [splitFirst?, Option.map_eq_some_iff, Prod.mk.injEq] at h
      obtain ⟨r, hr, rfl, rfl⟩ := h
      simpa using dropStart?_eq_some hr
  | cons c cs ih =>
      simp only [splitFirst?] at h
      split at h
      · next r hr =>
          simp only [Option.some.injEq, Prod.mk.injEq] at h
          obtain ⟨rfl, rfl⟩ := h
          simpa using dropStart?_eq_some hr
      · simp only [Option.map_eq_some_iff, Prod.mk.injEq, Prod.exists] at h
        obtain ⟨b, r, hr, rfl, rfl⟩ := h
        simp [ih hr]

theorem splitWhere_ne_nil (p : Char → Bool) (cs : List Char) : splitWhere p cs ≠ [] := by
  cases cs with
  | nil => simp [splitWhere]
  | cons c cs =>
      unfold splitWhere
      split
      · simp
      · split <;> simp

/-! ## On strings -/

/-- Whether the second text contains the first. -/
def contains (text part : String) : Bool :=
  occursIn part.toList text.toList

def startsWith (text start : String) : Bool :=
  start.toList.isPrefixOf text.toList

def endsWith (text ending : String) : Bool :=
  ending.toList.isSuffixOf text.toList

end Scenario.Text
