import Cubesat.Beacon.Basic
import Cubesat.Comm.Wire
import Cubesat.Mission.Action

/-!
Sending the beacon: once in every interval while the antennas are out, and at
once when the ground asks for it.
-/

namespace Cubesat

universe u

/-- Anything that can take a frame for downlink; it answers whether it did. -/
structure Transmitter (Env : Type u) where
  send : Bytes → Env → Bool × Env

structure Broadcast where
  /-- Mission time of the last accepted beacon. -/
  lastSent : Option Duration
  /-- A beacon is wanted whatever the interval says. -/
  forced : Bool
  deriving DecidableEq

namespace Broadcast

variable {Env : Type u}

def standardInterval : Duration := .ofSeconds 300

def start : Broadcast :=
  { lastSent := none, forced := false }

def requestImmediate (task : Broadcast) : Broadcast :=
  { task with forced := true }

def condition (interval : Duration) (task : Broadcast) (state : SystemState) : Bool :=
  state.antenna.deployed &&
    (task.forced ||
      match task.lastSent with
      | none => true
      | some sent => decide (interval ≤ state.time.saturatingSub sent))

/-- Sends a beacon; one that is not accepted is wanted again. -/
def execute (transmitter : Transmitter Env) (context : Context Broadcast Env) :
    Context Broadcast Env :=
  match (Beacon.ofState context.state).encodeWithin? Comm.maxDownlinkSize with
  | none => context
  | some frame =>
      let sent := transmitter.send frame context.env
      if sent.1 then
        { context with
          task := { lastSent := some context.state.time, forced := false }
          env := sent.2 }
      else
        { context with env := sent.2 }

def timeChanged (jump : TimeJump) (task : Broadcast) : Broadcast :=
  { task with lastSent := task.lastSent.map (·.movedBy jump) }

def action (interval : Duration) (transmitter : Transmitter Env) :
    Action (Context Broadcast Env) :=
  .ofPure "beacon" (fun context => condition interval context.task context.state)
    fun context => .ok (execute transmitter context)

end Broadcast

end Cubesat
