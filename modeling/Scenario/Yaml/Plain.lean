import Scenario.Yaml.Gap

/-!
# Plain scalars

A scalar without quotes goes on until a colon before a gap, a comment, a
line that is indented too little, or, within brackets, until an indicator.
The spaces before its end do not belong to it.
-/

namespace Scenario.Yaml

/-- The indicators of collections within brackets. -/
def isFlowIndicator (c : Char) : Bool :=
  c == ',' || c == '[' || c == ']' || c == '\x7b' || c == '\x7d'

/-- Characters that start something else than a plain scalar. -/
def isIndicator (c : Char) : Bool :=
  isFlowIndicator c || c == '-' || c == '?' || c == ':' || c == '#' || c == '&' || c == '*' ||
    c == '!' || c == '|' || c == '>' || c == '\x27' || c == '\x22' || c == '%' || c == '@' ||
    c == '\x60'

/-- Whether a plain scalar may start here. -/
def startsPlain (inFlow : Bool) : List Spot → Bool
  | [] => false
  | s :: rest =>
    if s.isSpace || s.isBreak then false
    else if !isIndicator s.char then true
    else if s.char == '-' then !atGap rest
    else !inFlow && (s.char == '?' || s.char == ':') && !atGap rest

structure PlainText where
  text : String
  /-- Whether a line ended after the last character. -/
  crossedLine : Bool
  rest : List Spot

/-- Whether a character behind a gap does not belong to the scalar any
more: its line is indented too little, or starts or ends a document, or a
comment starts. -/
def endsBehindGap (inFlow : Bool) (indent : Nat) (s : Spot) (rest : List Spot) : Bool :=
  (!inFlow && s.column < indent) || atMarker (s :: rest) || s.char == '#'

/-- Whether a plain scalar ends before a character anywhere. -/
def endsPlain (inFlow : Bool) (s : Spot) (rest : List Spot) : Bool :=
  (s.char == ':' && atGap rest) || (inFlow && isFlowIndicator s.char)

/-- Within brackets no colon may stand directly before an indicator. -/
def colonClashes (inFlow : Bool) (s : Spot) (rest : List Spot) : Bool :=
  inFlow && s.char == ':' && rest.head?.any fun t => isFlowIndicator t.char || t.char == '?'

/-- Reads on behind the characters `done`, the last first, and a gap; lines
are indented by at least `indent`, and not with tabs. -/
def plainFrom? (inFlow : Bool) (indent : Nat) (done : List Char) (gap : Gap) :
    List Spot → Option PlainText
  | [] => some ⟨String.ofList done.reverse, gap.crossesLine, []⟩
  | s :: rest =>
    if s.char == '\t' && gap.crossesLine && s.column < indent then none
    else if s.isSpace || s.isBreak then plainFrom? inFlow indent done (gap.pass s.char) rest
    else if !gap.isNothing && endsBehindGap inFlow indent s rest then
      some ⟨String.ofList done.reverse, gap.crossesLine, s :: rest⟩
    else if colonClashes inFlow s rest then none
    else if endsPlain inFlow s rest then
      some ⟨String.ofList done.reverse, gap.crossesLine, s :: rest⟩
    else plainFrom? inFlow indent (s.char :: gap.close done) .nothing rest

/-- The plain scalar that starts here. -/
def plain? (inFlow : Bool) (indent : Nat) (spots : List Spot) : Option PlainText :=
  plainFrom? inFlow indent [] .nothing spots

end Scenario.Yaml
