import Cubesat.Mission.Action
import Cubesat.Power.Basic
import Cubesat.State

/-!
The periodic power cycle of the flight computer, which waits for scrubbers to
finish.
-/

namespace Cubesat

universe u

/-- When the computer booted, as far as it is known. -/
structure PeriodicPowerCycle where
  /-- Mission time when the condition was first asked. -/
  bootTime : Option Duration
  deriving DecidableEq

namespace PeriodicPowerCycle

variable {Env : Type u}

def standardPeriod : Duration := .ofSeconds 86400

def start : PeriodicPowerCycle :=
  { bootTime := none }

/-- Whether the power cycle is due. The first time this is asked counts as the boot. -/
def condition (period : Duration) (scrubbing : Env → Scrubbing)
    (context : Context PeriodicPowerCycle Env) : Bool × Context PeriodicPowerCycle Env :=
  let bootTime := context.task.bootTime.getD context.state.time
  (decide (period ≤ context.state.time.saturatingSub bootTime) &&
      !(scrubbing context.env).anyBusy,
    { context with task := { bootTime := some bootTime } })

def execute (power : PowerUnit Env) (context : Context PeriodicPowerCycle Env) :
    Context PeriodicPowerCycle Env :=
  { context with env := (power.cycle context.env).2 }

def timeChanged (jump : TimeJump) (task : PeriodicPowerCycle) : PeriodicPowerCycle :=
  { bootTime := task.bootTime.map (·.movedBy jump) }

def action (period : Duration) (scrubbing : Env → Scrubbing) (power : PowerUnit Env) :
    Action (Context PeriodicPowerCycle Env) where
  name := "power_cycle"
  condition := condition period scrubbing
  execute context := .ok (execute power context)

end PeriodicPowerCycle

end Cubesat
