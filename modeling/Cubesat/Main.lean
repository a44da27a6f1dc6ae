import Cubesat.Simulator.Session

/-!
The simulator's command line: it runs a flight computer on the test bench and
prints what happens.
-/

namespace Cubesat.Simulation

def readFile (name : String) : IO (Option Bytes) := do
  try
    let content ← IO.FS.readBinFile name
    return some content.data.toList
  catch _ =>
    return none

/-- Runs cycle after cycle until the session's number of them is reached. -/
partial def loop (session : Session) (computer : Computer Bench) : IO UInt32 := do
  match tick session.config session.timeStep computer with
  | .error _ =>
      IO.eprintln "mission time is beyond the range of durations"
      return 101
  | .ok (tick, computer) =>
      for event in tick.events do
        IO.println event.message
      if session.cycles ≠ 0 ∧ session.cycles ≤ tick.snapshot.cycle then
        IO.println (Session.closing computer.cycleCount)
        return 0
      else
        IO.sleep (UInt32.ofNat (min session.intervalMillis 4294967295))
        loop session computer

def runSession (session : Session) : IO UInt32 := do
  for line in session.opening do
    IO.println line
  match boot session.config with
  | .error error =>
      IO.eprintln error.message
      return 1
  | .ok computer => loop session computer

end Cubesat.Simulation

open Cubesat.Simulation in
def main (line : List String) : IO UInt32 := do
  match Options.ofArguments line with
  | .error (.misuse error) =>
      IO.eprintln error.message
      return 1
  | .error .showHelp | .error .showVersion =>
      IO.println versionLine
      return 0
  | .ok options =>
      let file ← match options.configFile with
        | none => pure none
        | some name => readFile name
      match Session.prepare options file with
      | .error (.config error) =>
          IO.eprintln error.message
          return 1
      | .error .port =>
          IO.eprintln "the port is not a number of 16 bits"
          return 1
      | .ok session => runSession session
