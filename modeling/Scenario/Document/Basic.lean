import Scenario.Json.Basic

/-!
# Documents

A document is a tree in which a test case may be written. A format makes
its trees documents by answering what a reader of models asks: the text of
a node, its items, its fields. A model is read from any document by naming
its fields (`Shape`) and saying what each of them sets.

Fields are read in the order of the document, and the first misfit is
reported; that a field is missing is noticed when all have been read.
-/

namespace Scenario

/-- Why a document does not fit a model. -/
inductive Misfit
  | missingField (name : String)
  | duplicateField (name : String)
  | invalidType (found wanted : String)
  | invalidValue (found wanted : String)
  | invalidLength (length : Nat) (wanted : String)
  | unknownVariant (found : String) (known : List String)
  | notScalar (found : String)
  | malformed (reason : String)
  deriving Repr, DecidableEq

namespace Misfit

/-- The spellings that a variant may have. -/
def alternatives (known : List String) : String :=
  let shown := known.map fun name => "`" ++ name ++ "`"
  match shown with
  | [] => "there are no variants"
  | [a] => "expected " ++ a
  | [a, b] => "expected " ++ a ++ " or " ++ b
  | _ => "expected one of " ++ String.intercalate ", " shown

def message : Misfit → String
  | missingField name => "missing field `" ++ name ++ "`"
  | duplicateField name => "duplicate field `" ++ name ++ "`"
  | invalidType found wanted => "invalid type: " ++ found ++ ", expected " ++ wanted
  | invalidValue found wanted => "invalid value: " ++ found ++ ", expected " ++ wanted
  | invalidLength length wanted => s!"invalid length {length}, expected {wanted}"
  | unknownVariant found known => "unknown variant `" ++ found ++ "`, " ++ alternatives known
  | notScalar found => "expected a string or number, found " ++ found
  | malformed reason => reason

end Misfit

/-- The fields of a record, by name or by position. -/
inductive Record (ν : Type)
  | named (fields : List (String × ν))
  | positional (items : List ν)

/-- What a reader of models asks of a node. -/
class Document (ν : Type) where
  /-- Whether the node stands for nothing where something is optional. -/
  isNull : ν → Except Misfit Bool
  text : ν → Except Misfit String
  flag : ν → Except Misfit Bool
  /-- A natural number up to a limit, with the name of its type. -/
  natural : (limit : Nat) → (type : String) → ν → Except Misfit Nat
  character : ν → Except Misfit Char
  items : ν → Except Misfit (List ν)
  /-- A map with free keys. -/
  entries : ν → Except Misfit (List (String × ν))
  /-- A record; `wanted` describes it. -/
  record : (wanted : String) → ν → Except Misfit (Record ν)
  /-- The name of a variant, and what is written with it. -/
  variant : ν → Except Misfit (String × Option ν)
  /-- That a node holds nothing. -/
  unit : ν → Except Misfit Unit
  /-- The node as a value. -/
  value : ν → Except Misfit Json
  /-- How deep the tree below the node is. -/
  height : ν → Nat

namespace Document

variable {ν α δ : Type} [Document ν]

/-- Reads what may be missing. -/
def optional (read : ν → Except Misfit α) (node : ν) : Except Misfit (Option α) := do
  if ← isNull node then return none else return some (← read node)

/-- Reads a list. -/
def list (read : ν → Except Misfit α) (node : ν) : Except Misfit (List α) := do
  (← items node).mapM read

/-- Reads one of some named values. -/
def oneOf (known : List (String × α)) (node : ν) : Except Misfit α := do
  let (name, content) ← variant node
  match known.find? fun k => k.1 == name with
  | none => .error (.unknownVariant name (known.map Prod.fst))
  | some (_, a) =>
    match content with
    | some content => unit content
    | none => .ok ()
    return a

/-- The fields of a record in order, each with whether it is required. -/
structure Shape where
  title : String
  fields : List (String × Bool)

namespace Shape

def wanted (s : Shape) : String :=
  "struct " ++ s.title

def has (s : Shape) (name : String) : Bool :=
  s.fields.any fun f => f.1 == name

/-- The text of the length that a positional record should have. -/
def wantedLength (s : Shape) : String :=
  let plural := if s.fields.length = 1 then "" else "s"
  s.wanted ++ s!" with {s.fields.length} element" ++ plural

/-- Takes one named field; `seen` are the names before. -/
def take (s : Shape) (set : δ → String → ν → Except Misfit δ) (draft : δ) (seen : List String)
    (name : String) (node : ν) : Except Misfit (δ × List String) :=
  if !s.has name then .ok (draft, seen)
  else if seen.contains name then .error (.duplicateField name)
  else do return (← set draft name node, name :: seen)

/-- Reads named fields; unknown ones are left out. -/
def readNamed (s : Shape) (set : δ → String → ν → Except Misfit δ) (start : δ)
    (fields : List (String × ν)) : Except Misfit δ := do
  let (draft, seen) ← fields.foldlM
    (fun (draft, seen) (name, node) => s.take set draft seen name node) (start, [])
  match s.fields.find? fun f => f.2 && !seen.contains f.1 with
  | some f => .error (.missingField f.1)
  | none => .ok draft

/-- Reads fields in their order; `index` counts those before. -/
def readPositional (s : Shape) (set : δ → String → ν → Except Misfit δ) (total : Nat) :
    (index : Nat) → (draft : δ) → List (String × Bool) → List ν → Except Misfit δ
  | _, draft, [], [] => .ok draft
  | _, _, [], _ :: _ => .error (.invalidLength total "fewer elements in array")
  | index, draft, (name, _) :: fields, node :: nodes => do
    s.readPositional set total (index + 1) (← set draft name node) fields nodes
  | index, draft, (_, required) :: fields, [] =>
    if required then .error (.invalidLength index s.wantedLength)
    else s.readPositional set total (index + 1) draft fields []

/-- Reads a record by what each field sets in a draft. -/
def read (s : Shape) (set : δ → String → ν → Except Misfit δ) (start : δ) (node : ν) :
    Except Misfit δ := do
  match ← record s.wanted node with
  | .named fields => s.readNamed set start fields
  | .positional nodes => s.readPositional set nodes.length 0 start s.fields nodes

end Shape

end Document

end Scenario
