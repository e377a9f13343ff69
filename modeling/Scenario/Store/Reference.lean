/-!
# References in texts

A reference is `${`, a stretch without braces, and `}`. An opening
`${` begins one exactly if the next brace after it is a closing one;
otherwise it is dangling.

`Piece.ofText` cuts a text into characters, references and dangling
openings in one pass from the left, and the characters of the pieces are
the text again (`Piece.ofText_chars`).
-/

namespace Scenario

/-- A part of a text with references. -/
inductive Piece
  | literal (c : Char)
  | reference (inside : List Char)
  /-- An opening that begins no reference, with the text after it. -/
  | dangling (rest : List Char)
  deriving Repr, DecidableEq

namespace Piece

def isBrace (c : Char) : Bool :=
  c == '\x7b' || c == '\x7d'

/-- What stands before the next brace and after it, if that brace closes. -/
def closing? (cs : List Char) : Option (List Char × List Char) :=
  match cs.dropWhile fun c => !isBrace c with
  | '\x7d' :: rest => some (cs.takeWhile fun c => !isBrace c, rest)
  | _ => none

theorem closing?_eq {cs inside rest : List Char} (h : closing? cs = some (inside, rest)) :
    cs = inside ++ '\x7d' :: rest := by
  unfold closing? at h
  split at h
  · next r hr =>
      simp only [Option.some.injEq, Prod.mk.injEq] at h
      obtain ⟨rfl, rfl⟩ := h
      rw [← hr, List.takeWhile_append_dropWhile]
  · cases h

/-- The parts of a text from left to right. -/
def ofText : List Char → List Piece
  | [] => []
  | '$' :: '\x7b' :: rest =>
    match _h : closing? rest with
    | some (inside, after) => .reference inside :: ofText after
    | none => .dangling rest :: ofText rest
  | c :: rest => .literal c :: ofText rest
termination_by cs => cs.length
decreasing_by
  · have := closing?_eq (by assumption)
    subst this
    simp only [List.length_cons, List.length_append]; omega
  · simp only [List.length_cons]; omega
  · simp

/-- The characters of a piece. -/
def chars : Piece → List Char
  | literal c => [c]
  | reference inside => '$' :: '\x7b' :: inside ++ ['\x7d']
  | dangling _ => ['$', '\x7b']

/-- The pieces of a text are the text. -/
theorem ofText_chars (cs : List Char) : (ofText cs).flatMap chars = cs := by
  fun_induction ofText cs with
  | case1 => rfl
  | case2 rest inside after h ih =>
      have := closing?_eq h
      simp [chars, ih, this]
  | case3 rest h ih => simp [chars, ih]
  | case4 c rest h ih => simp [chars, ih]

/-- The inside of a text that is one reference and nothing else. -/
def whole? (cs : List Char) : Option (List Char) :=
  match cs with
  | '$' :: '\x7b' :: rest =>
    match closing? rest with
    | some (inside, []) => some inside
    | _ => none
  | _ => none

end Piece

end Scenario
