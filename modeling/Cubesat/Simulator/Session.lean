import Cubesat.Config.Field
import Cubesat.Simulator.Mission
import Cubesat.Simulator.Options

/-!
A session of the simulator from its command line to its last line of output.
-/

namespace Cubesat.Simulation

inductive SessionError where
  | config (error : ConfigError)
  | port

structure Session where
  config : MissionConfig
  timeStep : Duration
  /-- The number of cycles; zero stands for no end. -/
  cycles : UInt64
  intervalMillis : Nat
  port : Nat

namespace Session

/-- Prepares a session; `file` is the content of the configuration file, if it can be read. -/
def prepare (options : Options) (file : Option Bytes) : Except SessionError Session :=
  let config : Except ConfigError MissionConfig :=
    match options.configFile with
    | none => .ok .standard
    | some _ => MissionConfig.ofFile file
  match config with
  | .error error => .error (.config error)
  | .ok config =>
      match options.portNumber? with
      | none => .error .port
      | some port =>
          .ok
            { config
              timeStep := .ofSeconds options.timeStep
              cycles := options.cycles
              intervalMillis := options.intervalMillis.toNat
              port }

def opening (session : Session) : List String :=
  ["🛰️  OBC Mission Simulator",
    "=========================",
    "  cycle period : " ++ toString session.config.cyclePeriodMillis ++ " ms",
    "  time step    : " ++ toString session.timeStep.seconds ++ " s",
    "  state stream : 127.0.0.1:" ++ toString session.port]

def closing (cycles : UInt64) : String :=
  "🚀 Simulator stopped after " ++ toString cycles ++ " cycles"

end Session

inductive Failure where
  | usage (error : UsageError)
  | session (error : SessionError)
  | clock (fault : Fault)

structure Outcome where
  code : Nat
  output : List String
  events : List Event
  failure : Option Failure

def Outcome.refused (failure : Failure) : Outcome :=
  { code := 1, output := [], events := [], failure := some failure }

def Session.outcome (session : Session) : Outcome :=
  match boot session.config with
  | .error error =>
      { code := 1, output := session.opening, events := []
        failure := some (.session (.config error)) }
  | .ok computer =>
      match run session.config session.timeStep session.cycles.toNat computer with
      | .error fault =>
          { code := 101, output := session.opening, events := [], failure := some (.clock fault) }
      | .ok (events, computer) =>
          { code := 0
            output := session.opening ++ [Session.closing computer.cycleCount]
            events
            failure := none }

/--
The outcome of a command line that asks for a number of cycles; `file` holds
the content of the named configuration file, if it can be read.
-/
def outcome (line : List String) (file : Option Bytes) : Outcome :=
  match Options.ofArguments line with
  | .error (.misuse error) => .refused (.usage error)
  | .error .showHelp | .error .showVersion =>
      { code := 0, output := [versionLine], events := [], failure := none }
  | .ok options =>
      match Session.prepare options file with
      | .error error => .refused (.session error)
      | .ok session => session.outcome

end Cubesat.Simulation
