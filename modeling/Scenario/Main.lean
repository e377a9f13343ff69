import Scenario.Command.Answer

/-!
# The program

Reads the file of a command, carries the command out and prints the
answer. The pauses of a run are made when it has ended, and count as part
of its time.
-/

namespace Scenario

/-- The variables of the process. -/
def processEnvironment : IO Environment := do
  let text ← try IO.FS.readFile "/proc/self/environ" catch _ => pure ""
  let pairs := (text.splitOn "\x00").filterMap fun entry =>
    (Text.splitFirst? ['='] entry.toList).map fun (name, value) =>
      (String.ofList name, String.ofList value)
  return fun name => pairs.lookup name

/-- Waits for so many milliseconds. -/
def waitFor (milliseconds : Nat) : IO Unit := do
  let day := 86400000
  for _ in [0 : milliseconds / day] do
    IO.sleep day.toUInt32
  IO.sleep (milliseconds % day).toUInt32

/-- Runs a test case and makes its pauses; gives how many milliseconds both
took. -/
def timedRun (env : Environment) (given : List (String × Json)) (test : TestCase) :
    IO (Report × String) := do
  let start ← IO.monoMsNow
  let run := Command.finishedRun env given test
  for pause in run.pauses do
    waitFor (pause.nanoseconds / 1000000)
  return (run.report, toString ((← IO.monoMsNow) - start))

/-- The content of a file, if it can be read. -/
def content? (file : String) : IO (Option String) := do
  try return some (← IO.FS.readFile file)
  catch _ => return none

def answerWords (words : List String) : IO Answer := do
  match Command.ofWords? words with
  | none => return Command.misunderstood
  | some command =>
    let content ←
      match command.file? with
      | some file => content? file
      | none => pure none
    let env ← processEnvironment
    command.answer content (timedRun env)

end Scenario

open Scenario in
def main (words : List String) : IO UInt32 := do
  let answer ← answerWords words
  for line in answer.output do
    IO.println line
  for line in answer.errors do
    IO.eprintln line
  return answer.code.toUInt32
