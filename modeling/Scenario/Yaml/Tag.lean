import Scenario.Yaml.Plain

/-!
# Tags and directives

A tag is written in full between angle brackets, or as a handle with a
suffix; directives before a document say what handles stand for. A tag
without a suffix, a lone exclamation mark, asks for no type at all.
-/

namespace Scenario.Yaml

/-- A tag as it is written. -/
structure TagText where
  handle : String
  suffix : String
  deriving Repr, DecidableEq

/-- Characters of tags; brackets and commas only where a tag is written in
full. -/
def isTagChar (full : Bool) (c : Char) : Bool :=
  isNameChar c || c == ';' || c == '/' || c == '?' || c == ':' || c == '@' || c == '&' ||
    c == '=' || c == '+' || c == '$' || c == '.' || c == '!' || c == '~' || c == '*' ||
    c == '\x27' || c == '(' || c == ')' || c == '%' ||
    (full && (c == ',' || c == '[' || c == ']'))

/-- The bytes that a tag stands for; a percent sign is followed by the two
digits of one. -/
def tagBytes? : List Char → Option (List UInt8)
  | [] => some []
  | '%' :: a :: b :: cs => do
    let high ← Text.hexDigit? a
    let low ← Text.hexDigit? b
    return (16 * high + low).toUInt8 :: (← tagBytes? cs)
  | '%' :: _ => none
  | c :: cs => do return c.toNat.toUInt8 :: (← tagBytes? cs)

/-- The text of a tag with its escapes read. -/
def tagText? (cs : List Char) : Option String := do
  String.fromUTF8? ⟨(← tagBytes? cs).toArray⟩

/-- The characters of a tag and what follows them. -/
def takeTag? (full : Bool) (spots : List Spot) : Option (String × List Spot) := do
  let (cs, rest) := takeChars (isTagChar full) spots
  return (← tagText? cs, rest)

/-- Like `takeTag?`, but not empty. -/
def someTag? (full : Bool) (spots : List Spot) : Option (String × List Spot) :=
  (takeTag? full spots).filter fun t => !t.1.isEmpty

/-- A tag behind its exclamation mark. -/
def tagForm? (spots : List Spot) : Option (TagText × List Spot) :=
  if atChar '<' spots then do
    let (text, rest) ← someTag? true (spots.drop 1)
    if atChar '>' rest then some (⟨"", text⟩, rest.drop 1) else none
  else
    let (name, rest) := takeChars isNameChar spots
    if atChar '!' rest then do
      let (suffix, rest) ← someTag? false (rest.drop 1)
      return (⟨"!" ++ String.ofList name ++ "!", suffix⟩, rest)
    else do
      let (more, rest) ← takeTag? false rest
      let suffix := String.ofList name ++ more
      return (if suffix.isEmpty then ⟨"", "!"⟩ else ⟨"!", suffix⟩, rest)

/-- A tag behind its exclamation mark; a gap or, within brackets, a comma
follows it. -/
def tag? (inFlow : Bool) (spots : List Spot) : Option (TagText × List Spot) :=
  (tagForm? spots).filter fun t => (inFlow && atChar ',' t.2) || atGap t.2

/-- The name of an anchor or an alias behind its mark, and what follows. -/
def anchor? (spots : List Spot) : Option (String × List Spot) :=
  let (name, rest) := takeChars isNameChar spots
  let ended := atGap rest || rest.head?.any fun s =>
    s.char == '?' || s.char == ':' || s.char == ',' || s.char == ']' || s.char == '\x7d' ||
      s.char == '%' || s.char == '@' || s.char == '\x60'
  if name.isEmpty || !ended then none else some (String.ofList name, rest)

/-! ## Directives -/

inductive Directive
  | version (major minor : Nat)
  /-- What a handle stands for. -/
  | handle (name meaning : String)
  deriving Repr, DecidableEq

/-- A number of a version, of at most nine digits. -/
def versionNumber? (spots : List Spot) : Option (Nat × List Spot) :=
  let (cs, rest) := takeChars Text.isDigit spots
  if cs.isEmpty || 9 < cs.length then none
  else (Text.digitsIn? 10 0 cs).map fun n => (n, rest)

def version? (spots : List Spot) : Option (Directive × List Spot) := do
  let (major, rest) ← versionNumber? (dropSpaces spots)
  if !atChar '.' rest then none
  else
    let (minor, rest) ← versionNumber? (rest.drop 1)
    return (.version major minor, rest)

/-- A handle: an exclamation mark, or a name between two. -/
def handleName? (spots : List Spot) : Option (String × List Spot) :=
  if !atChar '!' spots then none
  else
    let (name, rest) := takeChars isNameChar (spots.drop 1)
    if atChar '!' rest then some ("!" ++ String.ofList name ++ "!", rest.drop 1)
    else if name.isEmpty then some ("!", rest)
    else none

def handle? (spots : List Spot) : Option (Directive × List Spot) := do
  let (name, rest) ← handleName? (dropSpaces spots)
  if !(rest.head?.any Spot.isSpace) then none
  else
    let (meaning, rest) ← someTag? true (dropSpaces rest)
    if atGap rest then some (.handle name meaning, rest) else none

/-- A directive behind its percent sign, to the end of its line. -/
def directive? (spots : List Spot) : Option (Directive × List Spot) := do
  let (name, rest) := takeChars isNameChar spots
  if !atGap rest then none
  else
    let (directive, rest) ←
      match String.ofList name with
      | "YAML" => version? rest
      | "TAG" => handle? rest
      | _ => none
    return (directive, ← closeLine? rest)

end Scenario.Yaml
