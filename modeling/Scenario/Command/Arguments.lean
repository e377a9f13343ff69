import Scenario.Json.Reader
import Scenario.Text.Blank
import Scenario.Text.Search

/-!
# Commands

What the words of the command line ask for. Words are read from left to
right, and the first that does not fit decides. Options may stand before
or after the file; behind `--` every word is a file.
-/

namespace Scenario

open Scenario.Text

inductive Format
  | text
  | json
  deriving Repr, DecidableEq

namespace Format

def all : List Format := [text, json]

def label : Format → String
  | text => "text"
  | json => "json"

def ofLabel? (label : String) : Option Format :=
  all.find? fun f => f.label == label

end Format

/-- What help can be asked about. -/
inductive Topic
  | program
  | run
  | validate
  | help
  deriving Repr, DecidableEq

inductive Command
  | run (file : String) (given : List (String × Json)) (format : Format)
  | validate (file : String)
  | help (topic : Topic)
  | version
  deriving Repr

namespace Command

/-- A variable as `KEY=VALUE`. The name is trimmed and not empty; a value
that is not JSON is a text. -/
def assignment? (text : String) : Option (String × Json) := do
  let (name, value) ← splitFirst? ['='] text.toList
  let name := String.ofList (trim name)
  let value := String.ofList value
  if name.isEmpty then none else some (name, (Json.parse? value).getD (.string value))

/-- Whether a word is an option rather than a file or a value; a lone dash
is not. -/
def isOption (word : String) : Bool :=
  startsWith word "-" && word != "-"

/-- Whether a word asks for help. -/
def asksHelp (word : String) : Bool :=
  word == "--help" || startsWith word "-h"

/-- The words read so far. -/
structure Draft where
  file : Option String := none
  /-- The variables, the last first. -/
  given : List (String × Json) := []
  format : Option Format := none
  /-- Whether all further words are files. -/
  onlyFiles : Bool := false

namespace Draft

def addFile? (d : Draft) (word : String) : Option Draft :=
  if d.file.isSome || word.isEmpty then none else some { d with file := some word }

def addVariable? (d : Draft) (text : String) : Option Draft := do
  return { d with given := (← assignment? text) :: d.given }

def addFormat? (d : Draft) (label : String) : Option Draft :=
  if d.format.isSome then none
  else (Format.ofLabel? label).map fun f => { d with format := some f }

/-- What an option of `run` does with its value. -/
def option? (name : String) : Option (Draft → String → Option Draft) :=
  match name with
  | "--var" => some addVariable?
  | "--format" => some addFormat?
  | _ => none

end Draft

/-- Reads the words of a command on a file; `finish` makes the command. -/
def onFile? (topic : Topic) (finish : Draft → String → Command) : Draft → List String →
    Option Command
  | d, [] => d.file.map (finish d)
  | d, word :: words => do
    if d.onlyFiles || !isOption word then onFile? topic finish (← d.addFile? word) words
    else if word = "--" then onFile? topic finish { d with onlyFiles := true } words
    else if asksHelp word then some (.help topic)
    else if topic ≠ .run then none
    else
      match splitFirst? ['='] word.toList with
      | some (name, value) =>
        let add ← Draft.option? (String.ofList name)
        onFile? topic finish (← add d (String.ofList value)) words
      | none =>
        let add ← Draft.option? word
        match words with
        | [] => none
        | value :: words =>
          if isOption value then none else onFile? topic finish (← add d value) words

/-- The topic that the words behind `help` name. -/
def topic? : List String → Option Topic
  | [] => some .program
  | ["run"] => some .run
  | ["validate"] => some .validate
  | ["help"] => some .help
  | _ => none

/-- The command that the words of the command line ask for. -/
def ofWords? : List String → Option Command
  | [] => none
  | word :: words =>
    match word with
    | "run" => onFile? .run (fun d file => .run file d.given.reverse (d.format.getD .text)) {} words
    | "validate" => onFile? .validate (fun _ file => .validate file) {} words
    | "help" => (topic? words).map .help
    | "--version" => some .version
    | _ =>
      if asksHelp word then some (.help .program)
      else if startsWith word "-V" then some .version
      else none

end Command

end Scenario
