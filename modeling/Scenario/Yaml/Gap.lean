import Scenario.Yaml.Source

/-!
# Gaps

What stands between two stretches of a scalar that is written on one or
more lines. Spaces within a line belong to the text; a single break is
folded into a space; of more breaks the first is dropped.
-/

namespace Scenario.Yaml

/-- The spaces and breaks passed since the last character of a text. -/
inductive Gap
  | nothing
  /-- Spaces within a line, the last first. -/
  | spaces (passed : List Char)
  /-- A first break, none if it was escaped, and the breaks after it, the
  last first; spaces around them are not kept. -/
  | breaks (first : Option Char) (more : List Char)
  deriving Repr, DecidableEq

namespace Gap

/-- Passes one more space or break. -/
def pass (gap : Gap) (c : Char) : Gap :=
  match gap with
  | nothing => if isBreak c then breaks (some c) [] else spaces [c]
  | spaces passed => if isBreak c then breaks (some c) [] else spaces (c :: passed)
  | breaks first more => if isBreak c then breaks first (c :: more) else gap

/-- Whether the gap goes over the end of a line. -/
def crossesLine : Gap → Bool
  | breaks _ _ => true
  | _ => false

def isNothing : Gap → Bool
  | nothing => true
  | _ => false

/-- Puts what a gap stands for behind a text whose last character is
first. -/
def close (gap : Gap) (done : List Char) : List Char :=
  match gap with
  | nothing => done
  | spaces passed => passed ++ done
  | breaks none more => more ++ done
  | breaks (some c) more =>
    if c = '\n' then (if more.isEmpty then ' ' :: done else more ++ done)
    else more ++ c :: done

example : (breaks (some '\n') []).close ['a'] = [' ', 'a'] := rfl
example : (breaks (some '\n') ['\n']).close ['a'] = ['\n', 'a'] := rfl

end Gap

end Scenario.Yaml
