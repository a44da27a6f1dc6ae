import Cubesat.Comm.Transceiver
import Cubesat.Computer.Cycle

/-!
The test bench: simulated devices for a whole flight computer.
-/

namespace Cubesat

structure Bench where
  transceiver : Transceiver
  clock : Duration
  rtc : Duration
  antenna : SimulatedAntenna
  adcs : SimulatedAdcs
  eps : SimulatedEps
  storage : MemoryStorage
  scrubbing : Scrubbing
  deriving DecidableEq

namespace Bench

/-- Devices that have just been switched on, with erased storage. -/
def fresh : Bench :=
  { transceiver := .idle
    clock := .zero
    rtc := .zero
    antenna := .stowed
    adcs := .idle
    eps := .idle
    storage := .erased Image.regionSize
    scrubbing := .idle }

def transceiverPart : Lens Bench Transceiver where
  get bench := bench.transceiver
  set part bench := { bench with transceiver := part }

def clockPart : Lens Bench Duration where
  get bench := bench.clock
  set part bench := { bench with clock := part }

def rtcPart : Lens Bench Duration where
  get bench := bench.rtc
  set part bench := { bench with rtc := part }

def antennaPart : Lens Bench SimulatedAntenna where
  get bench := bench.antenna
  set part bench := { bench with antenna := part }

def adcsPart : Lens Bench SimulatedAdcs where
  get bench := bench.adcs
  set part bench := { bench with adcs := part }

def epsPart : Lens Bench SimulatedEps where
  get bench := bench.eps
  set part bench := { bench with eps := part }

def storagePart : Lens Bench MemoryStorage where
  get bench := bench.storage
  set part bench := { bench with storage := part }

def scrubbingPart : Lens Bench Scrubbing where
  get bench := bench.scrubbing
  set part bench := { bench with scrubbing := part }

def hardware (rtcFitted : Bool) : Hardware Bench where
  bus := Transceiver.bus.through transceiverPart
  pause _ bench := bench
  clocks :=
    { mission := ClockUnit.simulated.through clockPart
      external := if rtcFitted then some (ClockUnit.simulated.through rtcPart) else none }
  antenna := SimulatedAntenna.unit.through antennaPart
  adcs := SimulatedAdcs.unit.through adcsPart
  power := SimulatedEps.unit.through epsPart
  storage := MemoryStorage.unit.through storagePart
  scrubbing bench := bench.scrubbing

def advance (time : Duration) (bench : Bench) : Except Fault Bench := do
  let clock ← bench.clock.addOrFault time
  let rtc ← bench.rtc.addOrFault time
  return { bench with clock, rtc }

end Bench

end Cubesat
