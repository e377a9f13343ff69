import Scenario.Document.Reader
import Scenario.Text.Quoted
import Scenario.Yaml.Node
import Scenario.Yaml.Value

/-!
# Test cases in documents

A document fits a model loosely: where a text is wanted any scalar is
taken as it is written, and a value that is left out is an empty list or
map. Where a value of any kind is wanted, plain scalars stand for numbers,
truth values and null. Tags of the standard types are obeyed; other tags
only name variants.
-/

namespace Scenario

open Scenario.Text

namespace Yaml

def nullTag : String := "tag:yaml.org,2002:null"

def boolTag : String := "tag:yaml.org,2002:bool"

def intTag : String := "tag:yaml.org,2002:int"

def floatTag : String := "tag:yaml.org,2002:float"

/-- The name in a tag that belongs to the document. -/
def localTag? (tag : Option String) : Option String := do
  match (← tag).toList with
  | '!' :: name => some (String.ofList name)
  | _ => none

/-- The value of a scalar, by its tag or else by how it is written. -/
def scalarValue (tag : Option String) (style : Style) (text : String) : Except Misfit Json :=
  let mismatch (wanted : String) : Except Misfit Json :=
    .error (.invalidValue ("string " ++ quoted text) wanted)
  match tag with
  | some tag =>
    if tag = boolTag then (truth? text).elim (mismatch "a boolean") fun b => .ok (.bool b)
    else if tag = intTag then
      ((integer? text.toList).bind id).elim (mismatch "an integer") .ok
    else if tag = floatTag then
      (double? text.toList).elim (mismatch "a float") fun x => .ok (ofDouble x)
    else if tag = nullTag then if isNullWord text then .ok .null else mismatch "null"
    else if (localTag? (some tag)).isSome then
      .error (.invalidType "enum" "any valid value")
    else .ok (.string text)
  | none =>
    match style with
    | .plain => (plainValue? text).elim (mismatch "any valid value") .ok
    | _ => .ok (.string text)

namespace Node

/-- A node as messages describe it. -/
def described : Node → String
  | .scalar _ _ text => "string " ++ quoted text
  | .list _ _ => "sequence"
  | .map _ _ => "map"
  | .endless => "a node without end"

def mismatch (n : Node) (wanted : String) : Misfit :=
  .invalidType n.described wanted

/-- A scalar as it is written. -/
def text (n : Node) : Except Misfit String :=
  match n with
  | .scalar _ _ text => .ok text
  | _ => .error (n.mismatch "a string")

/-- Whether nothing stands where something may. -/
def isLeftOut : Node → Bool
  | .scalar _ .plain "" => true
  | _ => false

/-- The text of a scalar that may have a type: one that is plain, or
literal with the tag of the type. -/
def typed? (tag : String) : Node → Option String
  | .scalar _ .plain text => some text
  | .scalar (some t) .literal text => if t = tag then some text else none
  | _ => none

def isNull : Node → Except Misfit Bool
  | .scalar none .plain text => .ok (text.isEmpty || isNullWord text)
  | .scalar (some tag) .plain text =>
    if tag ≠ nullTag then .ok false
    else if isNullWord text then .ok true
    else .error (.invalidValue ("string " ++ quoted text) "null")
  | .endless => .error (endless.mismatch "any valid value")
  | _ => .ok false

def flag (n : Node) : Except Misfit Bool :=
  ((n.typed? boolTag).bind truth?).elim (.error (n.mismatch "a boolean")) .ok

def natural (limit : Nat) (type : String) (n : Node) : Except Misfit Nat :=
  match (n.typed? intTag).bind fun text => unsigned? text.toList with
  | none => .error (n.mismatch type)
  | some i =>
    if i ≤ limit then .ok i else .error (.invalidValue s!"integer `{i}`" type)

def character (n : Node) : Except Misfit Char := do
  match (← n.text).toList with
  | [c] => return c
  | _ => .error (.invalidValue n.described "a character")

def items (n : Node) : Except Misfit (List Node) :=
  match n with
  | .list _ items => .ok items
  | _ => if n.isLeftOut then .ok [] else .error (n.mismatch "a sequence")

/-- The entries of a map by the texts of their keys. -/
def entries (wanted : String) (n : Node) : Except Misfit (List (String × Node)) :=
  match n with
  | .map _ entries => entries.mapM fun (key, value) => do return (← key.text, value)
  | _ => if n.isLeftOut then .ok [] else .error (n.mismatch wanted)

/-- The name of a variant: the tag of a node, or a scalar. -/
def variant (n : Node) : Except Misfit (String × Option Node) :=
  let byTag (tag : Option String) (content : Node) : Except Misfit (String × Option Node) :=
    match localTag? tag with
    | some name => .ok (name, some content)
    | none => .error (n.mismatch "a tag")
  match n with
  | .scalar tag style text =>
    match localTag? tag with
    | some name => .ok (name, some (.scalar none style text))
    | none => .ok (text, none)
  | .list tag items => byTag tag (.list none items)
  | .map tag entries => byTag tag (.map none entries)
  | .endless => .error (n.mismatch "a tag")

def unit (n : Node) : Except Misfit Unit := do
  match n with
  | .scalar _ .plain _ => if ← n.isNull then return () else .error (n.mismatch "unit")
  | _ => .error (n.mismatch "unit")

/-- The node as a value. -/
def value : Node → Except Misfit Json
  | .scalar tag style text => scalarValue tag style text
  | .list tag items =>
    if (localTag? tag).isSome then .error (.invalidType "enum" "any valid value")
    else (itemValues items).map Json.array
  | .map tag entries =>
    if (localTag? tag).isSome then .error (.invalidType "enum" "any valid value")
    else (entryValues entries).map Json.ofFields
  | .endless => .error (endless.mismatch "any valid value")
where
  itemValues : List Node → Except Misfit (List Json)
    | [] => .ok []
    | n :: ns => do return (← n.value) :: (← itemValues ns)
  entryValues : List (Node × Node) → Except Misfit (List (String × Json))
    | [] => .ok []
    | (k, v) :: rest => do return (← k.text, ← v.value) :: (← entryValues rest)

instance : Document Node where
  isNull := isNull
  text := text
  flag := flag
  natural := natural
  character := character
  items := items
  entries := entries "a map"
  record wanted n := (entries wanted n).map .named
  variant := variant
  unit := unit
  value := value
  height := height

end Node

end Yaml

/-- What is said of every text that holds no test case. -/
def TestCase.malformed : String :=
  "test document does not match the expected test-case format"

/-- The test case in the document that a text holds. -/
def TestCase.ofText? (text : String) : Option TestCase := do
  (TestCase.read (← Yaml.Node.ofText? text)).toOption

end Scenario
