import Scenario.Action.Builtin
import Scenario.Command.Arguments
import Scenario.Document.OfYaml
import Scenario.Document.Writer
import Scenario.Json.Indented
import Scenario.Report.Text
import Scenario.Run
import Scenario.Validation

/-!
# Answers to commands

What the program prints for a command, and the status that it exits with:
0 if all went well, 1 if a test did not or a file cannot be used, 2 if the
command is not understood.

The clock and the files are outside: an answer is made from the content of
the file, and a run reports a time that is given to it.
-/

namespace Scenario

structure Answer where
  code : Nat := 0
  /-- The lines for the standard output. -/
  output : List String := []
  /-- The lines for the standard error. -/
  errors : List String := []

namespace Answer

/-- The answer to a command that cannot be carried out. -/
def refusal (message : String) : Answer :=
  { code := 1, errors := ["Error: " ++ message] }

end Answer

namespace Command

/-- The name of the program and its version. -/
def programName : String := "testflow"

def programVersion : String := "0.1.0"

/-- The file that a command is about. -/
def file? : Command → Option String
  | .run file _ _ => some file
  | .validate file => some file
  | _ => none

/-- The valid test case in a file of which the content is known, if it
could be read. -/
def testCase (file : String) (content : Option String) : Except String TestCase := do
  match content with
  | none => .error ("Failed to read test file: " ++ file)
  | some text =>
    match TestCase.ofText? text with
    | none => .error ("Failed to parse test file: " ++ file)
    | some test =>
      Validation.check test
      return test

/-! ## Running -/

/-- A finished run: its report, and the pauses that it asked for. -/
structure FinishedRun where
  report : Report
  pauses : List Duration

/-- Runs a test case with the built-in actions; given variables come before
the declared ones. -/
def finishedRun (env : Environment) (given : List (String × Json)) (test : TestCase) :
    FinishedRun :=
  let engine : Engine (List Duration) :=
    { catalog := Builtin.catalog .standard fun pause pauses => pause :: pauses
      limits := Limits.ofSetting (env Limits.variableName)
      env }
  let (report, p) := engine.runTest test ⟨OrderedMap.ofList given, [], []⟩
  ⟨report, p.pauses ++ p.state⟩

/-- The report on a run that took so many milliseconds. -/
def reported (format : Format) (milliseconds : String) (report : Report) : Answer :=
  { code := if report.isSuccess then 0 else 1
    output :=
      match format with
      | .text => report.lines milliseconds
      | .json => [report.toJson.indented] }

/-! ## Help -/

def helpLines : Topic → List String
  | .program => [
    "Command-line runner for testflow test cases", "",
    "Usage: testflow <COMMAND>", "",
    "Commands:",
    "  run       Run a test file and print its report",
    "  validate  Check a test file without running it",
    "  help      Print this message or the help of the given subcommand(s)", "",
    "Options:",
    "  -h, --help     Print help",
    "  -V, --version  Print version"]
  | .run => [
    "Run a test file and print its report", "",
    "Usage: testflow run [OPTIONS] <FILE>", "",
    "Arguments:",
    "  <FILE>  Path to the test case YAML file", "",
    "Options:",
    "      --var <KEY=VALUE>  Variable override as KEY=VALUE; JSON values are parsed, anything else is text",
    "      --format <FORMAT>  Report format [default: text] [possible values: text, json]",
    "  -h, --help             Print help"]
  | .validate => [
    "Check a test file without running it", "",
    "Usage: testflow validate <FILE>", "",
    "Arguments:",
    "  <FILE>  Path to the test case YAML file", "",
    "Options:",
    "  -h, --help  Print help"]
  | .help => [
    "Print this message or the help of the given subcommand(s)", "",
    "Usage: testflow help [COMMAND]...", "",
    "Arguments:",
    "  [COMMAND]...  Print help for the subcommand(s)"]

/-- The answer to a command that is not understood. -/
def misunderstood : Answer :=
  { code := 2
    errors := ["Usage: testflow <COMMAND>", "", "For more information, try '--help'."] }

/-- The answer to a command. `content` is the content of its file, and
`timed` carries out a run and says how many milliseconds it took. -/
def answer [Monad m] (content : Option String)
    (timed : List (String × Json) → TestCase → m (Report × String)) : Command → m Answer
  | .help topic => return { output := helpLines topic }
  | .version => return { output := [s!"{programName} {programVersion}"] }
  | .validate file =>
    match testCase file content with
    | .error message => return .refusal message
    | .ok test => return { output := [s!"{file}: ok ({test.steps.length} steps)"] }
  | .run file given format => do
    match testCase file content with
    | .error message => return .refusal message
    | .ok test =>
      let (report, milliseconds) ← timed given test
      return reported format milliseconds report

end Command

end Scenario
