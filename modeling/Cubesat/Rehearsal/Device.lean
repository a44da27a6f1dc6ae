import Cubesat.Beacon.Broadcast
import Cubesat.Power.Basic

/-!
A power system and a transmitter that fail on cue.
-/

namespace Cubesat

/-- A power system with a plan for its next calls: they fail, or they reach it. -/
structure PlannedEps where
  eps : SimulatedEps
  plan : List (Option DeviceError)

namespace PlannedEps

def idle : PlannedEps :=
  { eps := .idle, plan := [] }

def extend (plan : List (Option DeviceError)) (power : PlannedEps) : PlannedEps :=
  { power with plan := power.plan ++ plan }

def call (operation : SimulatedEps → Except DeviceError Unit × SimulatedEps) (power : PlannedEps) :
    Except DeviceError Unit × PlannedEps :=
  match power.plan with
  | some error :: rest => (.error error, { power with plan := rest })
  | plan =>
      let done := operation power.eps
      (done.1, { eps := done.2, plan := plan.tail })

def unit : PowerUnit PlannedEps where
  operate operation := call (SimulatedEps.unit.operate operation)
  cycle := call SimulatedEps.unit.cycle

end PlannedEps

structure PlannedTransmitter where
  /-- The answers to the next frames; frames beyond them are accepted. -/
  answers : List Bool
  /-- The frames that were offered, latest one first. -/
  offered : List Bytes

namespace PlannedTransmitter

def idle : PlannedTransmitter :=
  { answers := [], offered := [] }

def unit : Transmitter PlannedTransmitter where
  send frame device :=
    (device.answers.headD true,
      { answers := device.answers.tail, offered := frame :: device.offered })

end PlannedTransmitter

end Cubesat
