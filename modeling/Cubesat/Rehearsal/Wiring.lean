import Cubesat.Bus.ErrorLimit
import Cubesat.Bus.Fallback
import Cubesat.Comm.Link
import Cubesat.Comm.Transceiver
import Cubesat.Rehearsal.Script

/-!
Buses put together from simulated transceivers, scripted devices, redundant
pairs and error limits.

The devices stand in a rack, numbered for each kind; a wiring says which of
them a bus reaches and through what.
-/

namespace Cubesat

structure LimitCount where
  errors : Nat
  recoveries : Nat
  deriving DecidableEq

structure Rack where
  transceivers : List Transceiver
  scripts : List Script
  limits : List LimitCount
  log : List LogEntry
  waits : List Nat

namespace Rack

def empty : Rack :=
  { transceivers := [], scripts := [], limits := [], log := [], waits := [] }

def transceiverPart (number : Nat) : Lens Rack Transceiver where
  get rack := rack.transceivers.getD number .idle
  set part rack := { rack with transceivers := rack.transceivers.set number part }

def scriptPart (number : Nat) : Lens Rack ScriptedDevice where
  get rack := { script := rack.scripts.getD number .empty, log := rack.log }
  set part rack := { rack with scripts := rack.scripts.set number part.script, log := part.log }

/-- The rack behind the error limit of a number. -/
def limitPart (number : Nat) : Lens Rack (Guarded Rack) where
  get rack := { env := rack, errors := (rack.limits.getD number ⟨0, 0⟩).errors }
  set part _ :=
    { part.env with
      limits := part.env.limits.modify number fun count => { count with errors := part.errors } }

def countRecovery (number : Nat) (rack : Rack) : Rack :=
  { rack with
    limits := rack.limits.modify number fun count =>
      { count with recoveries := count.recoveries + 1 } }

def wait (millis : Nat) (rack : Rack) : Rack :=
  { rack with waits := millis :: rack.waits }

end Rack

inductive Wiring where
  | transceiver (number : Nat)
  | script (number : Nat)
  | fallback (primary secondary : Wiring)
  | limited (number : Nat) (limit : ErrorLimit) (inner : Wiring)

namespace Wiring

def bus : Wiring → Bus Rack
  | transceiver number => Transceiver.bus.through (Rack.transceiverPart number)
  | script number => (ScriptedDevice.bus number).through (Rack.scriptPart number)
  | fallback primary secondary => primary.bus.fallback secondary.bus
  | limited number limit inner =>
      (inner.bus.limited limit (Rack.countRecovery number)).through (Rack.limitPart number)

/-- The two sides of all redundant pairs, a pair before those inside of it. -/
def fallbacks : Wiring → List (Wiring × Wiring)
  | transceiver _ => []
  | script _ => []
  | fallback primary secondary => (primary, secondary) :: (primary.fallbacks ++ secondary.fallbacks)
  | limited _ _ inner => inner.fallbacks

/-- What stands behind all error limits, a limit after those inside of it. -/
def limits : Wiring → List Wiring
  | transceiver _ => []
  | script _ => []
  | fallback primary secondary => primary.limits ++ secondary.limits
  | limited _ _ inner => inner.limits ++ [inner]

def link (wiring : Wiring) : Link Rack where
  bus := wiring.bus
  pause := Rack.wait

end Wiring

end Cubesat
