import Cubesat.Rehearsal.Device
import Cubesat.Rehearsal.Wiring
import Cubesat.Simulator.Bench

/-!
A whole flight computer on a test bed: its bus is wired to the devices of a
rack, and its power system fails on cue.
-/

namespace Cubesat

structure CycleRecord where
  cycle : UInt64
  executed : List String
  time : Duration
  deriving DecidableEq

def CycleRecord.ofReport (report : CycleReport) (time : Duration) : CycleRecord :=
  { cycle := report.cycle, executed := report.executed, time }

structure Testbed where
  rack : Rack
  bench : Bench
  /-- The plan for the next calls of the power system. -/
  powerPlan : List (Option DeviceError)
  cycles : List CycleRecord
  /-- The pauses of a run in milliseconds, latest one first. -/
  pauses : List Nat
  /-- The clocks came to their end in a run. -/
  fault : Option Fault

namespace Testbed

def start (rack : Rack) (bench : Bench) : Testbed :=
  { rack, bench, powerPlan := [], cycles := [], pauses := [], fault := none }

def rackPart : Lens Testbed Rack where
  get bed := bed.rack
  set rack bed := { bed with rack }

def benchPart : Lens Testbed Bench where
  get bed := bed.bench
  set bench bed := { bed with bench }

def powerPart : Lens Testbed PlannedEps where
  get bed := { eps := bed.bench.eps, plan := bed.powerPlan }
  set part bed := { bed with bench := { bed.bench with eps := part.eps }, powerPlan := part.plan }

/-- The devices as a computer is wired to them, with or without the external clock. -/
def hardware (wiring : Wiring) (rtcFitted : Bool) : Hardware Testbed where
  bus := wiring.bus.through rackPart
  pause _ bed := bed
  clocks :=
    { mission := ClockUnit.simulated.through (benchPart.comp Bench.clockPart)
      external :=
        if rtcFitted then
          some (ClockUnit.simulated.through (benchPart.comp Bench.rtcPart))
        else
          none }
  antenna := SimulatedAntenna.unit.through (benchPart.comp Bench.antennaPart)
  adcs := SimulatedAdcs.unit.through (benchPart.comp Bench.adcsPart)
  power := PlannedEps.unit.through powerPart
  storage := MemoryStorage.unit.through (benchPart.comp Bench.storagePart)
  scrubbing bed := bed.bench.scrubbing

end Testbed

structure TimeStep where
  mission : Duration
  external : Duration
  deriving DecidableEq

structure Rehearsal where
  wiring : Wiring
  rtcFitted : Bool
  config : MissionConfig
  computer : Computer Testbed

namespace Rehearsal

def bedPart : Lens Rehearsal Testbed where
  get rehearsal := rehearsal.computer.env
  set env rehearsal := { rehearsal with computer := { rehearsal.computer with env } }

def rackPart : Lens Rehearsal Rack :=
  bedPart.comp Testbed.rackPart

def benchPart : Lens Rehearsal Bench :=
  bedPart.comp Testbed.benchPart

def powerPart : Lens Rehearsal PlannedEps :=
  bedPart.comp Testbed.powerPart

def statePart : Lens Rehearsal SystemState where
  get rehearsal := rehearsal.computer.state
  set state rehearsal := { rehearsal with computer := { rehearsal.computer with state } }

def hardware (rehearsal : Rehearsal) : Hardware Testbed :=
  Testbed.hardware rehearsal.wiring rehearsal.rtcFitted

def boot (wiring : Wiring) (rtcFitted : Bool) (config : MissionConfig) (bed : Testbed) :
    Except ConfigError Rehearsal :=
  (Computer.boot (Testbed.hardware wiring rtcFitted) config bed).map fun computer =>
    { wiring, rtcFitted, config, computer }

/-- Boots again on the same devices; a refused configuration changes nothing. -/
def reboot (config : MissionConfig) (rehearsal : Rehearsal) :
    Except ConfigError Unit × Rehearsal :=
  match boot rehearsal.wiring rehearsal.rtcFitted config rehearsal.computer.env with
  | .ok rehearsal => (.ok (), rehearsal)
  | .error error => (.error error, rehearsal)

def advanceBench (rtcFitted : Bool) (step : TimeStep) (bench : Bench) : Except Fault Bench := do
  let clock ← bench.clock.addOrFault step.mission
  if rtcFitted then
    let rtc ← bench.rtc.addOrFault step.external
    return { bench with clock, rtc }
  else
    return { bench with clock }

def advance (step : TimeStep) (rehearsal : Rehearsal) : Except Fault Rehearsal :=
  (advanceBench rehearsal.rtcFitted step rehearsal.computer.env.bench).map fun bench =>
    bedPart.modify (fun bed => { bed with bench }) rehearsal

def advanceIf (step : Option TimeStep) (rehearsal : Rehearsal) : Except Fault Rehearsal :=
  match step with
  | none => .ok rehearsal
  | some step => rehearsal.advance step

def runCycle (rehearsal : Rehearsal) : Except Fault (CycleReport × Rehearsal) :=
  (rehearsal.computer.runCycle rehearsal.hardware rehearsal.config).map fun (report, computer) =>
    (report, { rehearsal with computer })

def poll (rehearsal : Rehearsal) : GroundRequest × Rehearsal :=
  let polled := rehearsal.computer.poll rehearsal.hardware rehearsal.config
  (polled.1, { rehearsal with computer := polled.2 })

def requestSail (rehearsal : Rehearsal) : Bool × Rehearsal :=
  let asked := rehearsal.computer.requestSail
  (asked.1, { rehearsal with computer := asked.2 })

def setTime (time : Duration) (rehearsal : Rehearsal) : Bool × Rehearsal :=
  let done := rehearsal.computer.setTime rehearsal.hardware time
  (done.1, { rehearsal with computer := done.2 })

def step (rehearsal : Rehearsal) : Except Fault ((CycleReport × GroundRequest) × Rehearsal) :=
  (rehearsal.computer.step rehearsal.hardware rehearsal.config).map fun (done, computer) =>
    (done, { rehearsal with computer })

def steps (time : Option TimeStep) :
    (count : Nat) → Rehearsal → Except Fault (List (CycleRecord × GroundRequest) × Rehearsal)
  | 0, rehearsal => .ok ([], rehearsal)
  | count + 1, rehearsal => do
      let ((report, request), rehearsal) ← (← rehearsal.advanceIf time).step
      let record := CycleRecord.ofReport report rehearsal.computer.state.time
      let (others, rehearsal) ← steps time count rehearsal
      return ((record, request) :: others, rehearsal)

/-- Runs a number of steps with pauses between them, and lets time pass after each. -/
def run (time : Option TimeStep) (count : Nat) (rehearsal : Rehearsal) :
    Except Fault Rehearsal := do
  let pause (millis : Nat) (computer : Computer Testbed) : Computer Testbed :=
    { computer with env := { computer.env with pauses := millis :: computer.env.pauses } }
  let keepRunning (report : CycleReport) (computer : Computer Testbed) : Bool × Computer Testbed :=
    let record := CycleRecord.ofReport report computer.state.time
    let bed := { computer.env with cycles := record :: computer.env.cycles }
    let advanced : Except Fault Bench :=
      match time with
      | none => .ok bed.bench
      | some step => advanceBench rehearsal.rtcFitted step bed.bench
    match advanced with
    | .ok bench => (decide (bed.cycles.length < count), { computer with env := { bed with bench } })
    | .error fault => (false, { computer with env := { bed with fault := some fault } })
  let fresh :=
    bedPart.modify (fun bed => { bed with cycles := [], pauses := [], fault := none }) rehearsal
  let computer ←
    fresh.computer.run rehearsal.hardware rehearsal.config pause keepRunning (max count 1)
  match computer.env.fault with
  | some fault => .error fault
  | none => .ok { rehearsal with computer }

end Rehearsal

end Cubesat
