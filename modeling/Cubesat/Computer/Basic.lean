import Cubesat.Bus.ErrorLimit
import Cubesat.Clock.Timekeeper
import Cubesat.Comm.Radio
import Cubesat.Config.Basic
import Cubesat.Sail.Opening
import Cubesat.Settings.Saving

/-!
The flight computer: its hardware, everything that it remembers, and the parts
of its memory that the tasks work on.
-/

namespace Cubesat

universe u

/-- The devices that a flight computer is wired to, within one environment. -/
structure Hardware (Env : Type u) where
  bus : Bus Env
  pause : Nat → Env → Env
  clocks : Clocks Env
  antenna : AntennaUnit Env
  adcs : AdcsUnit Env
  power : PowerUnit Env
  storage : StorageUnit Env
  scrubbing : Env → Scrubbing

/-- What a running flight computer remembers, and the state of the devices around it. -/
structure Computer (Env : Type u) where
  state : SystemState
  cycleCount : UInt64
  timekeeper : Timekeeper
  deployment : Deployment
  detumbling : Detumbling
  sail : SailOpening
  broadcast : Broadcast
  powerCycle : PeriodicPowerCycle
  stats : RadioStats
  busErrors : Nat
  /-- The consecutive failures that power cycle the computer, as loaded at boot. -/
  errorLimit : ErrorLimit
  env : Env

namespace Hardware

variable {Env : Type u}

/-- The link to the transceiver; too many consecutive failures power cycle the computer. -/
def link (hardware : Hardware Env) (limit : ErrorLimit) : Link (Guarded Env) where
  bus := hardware.bus.limited limit fun env => (hardware.power.cycle env).2
  pause millis guarded := { guarded with env := hardware.pause millis guarded.env }

def transmitter (hardware : Hardware Env) (limit : ErrorLimit) :
    Transmitter (Radio (Guarded Env)) where
  send frame radio := radio.sendFrame (hardware.link limit) frame

end Hardware

namespace Computer

variable {Env : Type u}

def timekeeperPart : Lens (Computer Env) (Context Timekeeper Env) where
  get computer := ⟨computer.timekeeper, computer.state, computer.env⟩
  set part computer :=
    { computer with timekeeper := part.task, state := part.state, env := part.env }

def deploymentPart : Lens (Computer Env) (Context Deployment Env) where
  get computer := ⟨computer.deployment, computer.state, computer.env⟩
  set part computer :=
    { computer with deployment := part.task, state := part.state, env := part.env }

def detumblingPart : Lens (Computer Env) (Context Detumbling Env) where
  get computer := ⟨computer.detumbling, computer.state, computer.env⟩
  set part computer :=
    { computer with detumbling := part.task, state := part.state, env := part.env }

def sailPart : Lens (Computer Env) (Context SailOpening Env) where
  get computer := ⟨computer.sail, computer.state, computer.env⟩
  set part computer := { computer with sail := part.task, state := part.state, env := part.env }

def powerCyclePart : Lens (Computer Env) (Context PeriodicPowerCycle Env) where
  get computer := ⟨computer.powerCycle, computer.state, computer.env⟩
  set part computer :=
    { computer with powerCycle := part.task, state := part.state, env := part.env }

def storagePart : Lens (Computer Env) (SystemState × Env) where
  get computer := (computer.state, computer.env)
  set part computer := { computer with state := part.1, env := part.2 }

def radioPart : Lens (Computer Env) (Radio (Guarded Env)) where
  get computer := ⟨computer.stats, ⟨computer.env, computer.busErrors⟩⟩
  set part computer :=
    { computer with stats := part.stats, busErrors := part.env.errors, env := part.env.env }

def broadcastPart : Lens (Computer Env) (Context Broadcast (Radio (Guarded Env))) where
  get computer := ⟨computer.broadcast, computer.state, radioPart.get computer⟩
  set part computer :=
    radioPart.set part.env { computer with broadcast := part.task, state := part.state }

end Computer

end Cubesat
