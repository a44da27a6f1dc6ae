import Cubesat.Ground.Session
import Cubesat.Simulator.Bench
import Cubesat.Simulator.Snapshot

/-!
A mission on the test bench: a flight computer with an external clock, commands
from a ground station, and what can be seen from outside.
-/

namespace Cubesat.Simulation

/-- The command byte of a reboot request; any byte but the beacon command would do. -/
def rebootCommand : UInt8 := 0x01

def boot (config : MissionConfig) : Except ConfigError (Computer Bench) :=
  Computer.boot (Bench.hardware true) config .fresh

def uplink (frame : Bytes) (computer : Computer Bench) : Computer Bench :=
  { computer with env := Bench.transceiverPart.modify (·.receiveFrame frame) computer.env }

def apply (config : MissionConfig) (computer : Computer Bench) :
    GroundCommand → Computer Bench
  | .sendBeacon =>
      uplink (Transceiver.commandFrame config.securityCode Comm.beaconCommand) computer
  | .reboot => uplink (Transceiver.commandFrame config.securityCode rebootCommand) computer
  | .openSail => computer.requestSail.2
  | .setTime seconds => (computer.setTime (Bench.hardware true) (.ofSeconds seconds)).2
  | .uplink frame => uplink frame computer

structure Tick where
  snapshot : Snapshot
  /-- The frames that went out over the air. -/
  downlinked : List Bytes

/-- Lets time pass, runs one step and transmits all queued frames. -/
def tick (config : MissionConfig) (time : Duration) (computer : Computer Bench) :
    Except Fault (Tick × Computer Bench) := do
  let env ← computer.env.advance time
  let ((report, request), computer) ←
    { computer with env }.step (Bench.hardware true) config
  let (downlinked, transceiver) := computer.env.transceiver.transmitAll
  let computer := { computer with env := { computer.env with transceiver } }
  let snapshot : Snapshot :=
    { cycle := report.cycle
      state := computer.state
      executed := report.executed
      request
      downlinkedFrames := downlinked.length
      stats := computer.stats }
  return ({ snapshot, downlinked }, computer)

inductive Event where
  | beaconDownlinked (callsign : String) (timestampMillis : Nat)
  | cycle (number : UInt64) (actions : List String)
  deriving DecidableEq

def Event.message : Event → String
  | beaconDownlinked callsign timestampMillis =>
      "beacon downlinked callsign=" ++ callsign ++ " timestamp_ms=" ++ toString timestampMillis
  | cycle number actions =>
      "cycle cycle=" ++ toString number ++ " actions=[" ++
        ", ".intercalate (actions.map fun action => "\"" ++ action ++ "\"") ++ "]"

def Event.ofFrame? (frame : Bytes) : Option Event :=
  (Beacon.decode? frame).map fun beacon =>
    .beaconDownlinked ((textOfBytes? beacon.callsign).getD "") beacon.timestampMillis.toNat

/-- The events of a step: the beacons that went out, then the cycle if it executed anything. -/
def Tick.events (tick : Tick) : List Event :=
  tick.downlinked.filterMap Event.ofFrame? ++
    if tick.snapshot.executed.isEmpty then []
    else [.cycle tick.snapshot.cycle tick.snapshot.executed]

def run (config : MissionConfig) (time : Duration) :
    (steps : Nat) → Computer Bench → Except Fault (List Event × Computer Bench)
  | 0, computer => .ok ([], computer)
  | steps + 1, computer => do
      let (tick, computer) ← tick config time computer
      let (events, computer) ← run config time steps computer
      return (tick.events ++ events, computer)

end Cubesat.Simulation
