import Scenario.Pattern.Matching

/-!
# Libraries of patterns

Patterns are read and matched by a library that a run is given. It says of
a pattern that it can read how many groups the pattern has and what they
take of a text, and of another why it cannot be read. The run relies on no
more than that a group is a part of the text (`ReadPattern.part_infix`).

`Pattern.library` is such a library, with the syntax of
`Scenario.Pattern.Reader` and leftmost-first matching. It leaves out the
sets of characters that are named by a property (`\p`), and of a pattern that
is not well formed it does not say where and why.
-/

namespace Scenario

/-- A pattern as a library has read it. -/
structure ReadPattern where
  /-- How many groups there are besides the whole match. -/
  groups : Nat
  /-- The groups of the first match in a text by number. The whole match has
  number zero; a group that takes no part is missing. -/
  find? : List Char → Option (Nat → Option (List Char))
  part_infix : ∀ {text found group part}, find? text = some found →
    found group = some part → part <:+: text

structure PatternLibrary where
  /-- The pattern that a text stands for, or why there is none. -/
  read : String → Except String ReadPattern

namespace Pattern

/-- The text of a group of a match. -/
def groupText? (text : List Char) (slots : Slots) (group : Nat) : Option (List Char) :=
  match slots.get? (2 * group), slots.get? (2 * group + 1) with
  | some start, some stop => some ((text.take stop).drop start)
  | _, _ => none

theorem groupText?_infix {text part : List Char} {slots : Slots} {group : Nat}
    (h : groupText? text slots group = some part) : part <:+: text := by
  unfold groupText? at h
  split at h
  · next start stop _ _ =>
      obtain rfl := Option.some.inj h
      exact (List.drop_suffix start _).isInfix.trans (List.take_prefix stop text).isInfix
  · cases h

/-- The groups of a pattern that has been read. -/
def compiled (p : Pattern) : ReadPattern where
  groups := p.lastGroup
  find? text := (p.find? text).map (groupText? text)
  part_infix {text found group part} hfound hpart := by
    obtain ⟨slots, -, rfl⟩ := Option.map_eq_some_iff.mp hfound
    exact groupText?_infix hpart

def library : PatternLibrary where
  read text :=
    match read? text with
    | .error reason => .error reason.message
    | .ok p => .ok p.compiled

end Pattern

end Scenario
