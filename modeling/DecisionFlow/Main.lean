import DecisionFlow.Command.Display
import DecisionFlow.Command.Run

set_option autoImplicit false

/-! # The program

Reads the environment and the files that the command line may look at, runs the command line, and
prints what it comes to. -/

open DecisionFlow

/-- The variables of the settings that are set. -/
def readEnvironment : IO Environment :=
  Settings.variableNames.filterMapM fun name => do
    let value ← IO.getEnv name
    return value.map fun text => (name, text)

/-- The file at a location, if there is one that can be read. -/
def readLocation (location : Files.Location) : IO Files.Tree := do
  try
    let bytes ← IO.FS.readBinFile location.text
    return [(location, .file bytes.toList)]
  catch _ => return []

/-- Runs the command line. -/
def main (words : List String) : IO UInt32 := do
  let environment ← readEnvironment
  let directory ← IO.currentDir
  let here := Files.Location.follow [] (toString directory)
  let found ← (Command.locations environment here words).mapM readLocation
  let desk : Command.Desk := ⟨(here, .folder) :: found.flatten, here⟩
  let outcome := Command.run ⟨environment, desk, Clock.counting⟩ words
  for line in outcome.lines do
    if outcome.isMistake then IO.eprintln line else IO.println line
  return outcome.status.toUInt32
