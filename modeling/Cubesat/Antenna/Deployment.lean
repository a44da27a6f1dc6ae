import Cubesat.Mission.Action
import Cubesat.State

/-!
Deployment of the antennas: no attempt before the silent period is over, a
pause between attempts, and no more attempts than planned.
-/

namespace Cubesat

universe u

structure DeploymentPlan where
  silentPeriod : Duration
  retryInterval : Duration
  maxAttempts : UInt8
  deriving DecidableEq

def DeploymentPlan.standard : DeploymentPlan :=
  { silentPeriod := .ofSeconds 1800, retryInterval := .ofSeconds 60, maxAttempts := 8 }

structure Deployment where
  attempts : Nat
  /-- No attempt is made before this mission time. -/
  nextAttempt : Duration
  deriving DecidableEq

namespace Deployment

variable {Env : Type u}

def start : Deployment :=
  { attempts := 0, nextAttempt := .zero }

/-- Reads which elements are out; a failed readout leaves the observation as it is. -/
def update (antenna : AntennaUnit Env) (context : Context Deployment Env) :
    UpdateResult × Context Deployment Env :=
  match antenna.status context.env with
  | (.ok elements, env) =>
      (.ok, { context with state := { context.state with antenna := elements }, env })
  | (.error _, env) => (.failure, { context with env })

def condition (plan : DeploymentPlan) (task : Deployment) (state : SystemState) : Bool :=
  !state.settings.antennaDisabled && !state.antenna.deployed &&
    decide (plan.silentPeriod ≤ state.time) && decide (task.nextAttempt ≤ state.time) &&
    decide (task.attempts < plan.maxAttempts.toNat)

/-- Makes an attempt, whether the antenna unit accepts it or not. -/
def execute (plan : DeploymentPlan) (antenna : AntennaUnit Env) (context : Context Deployment Env) :
    Except Fault (Context Deployment Env) :=
  if 255 ≤ context.task.attempts then
    .error .counterOverflow
  else
    (context.state.time.addOrFault plan.retryInterval).map fun nextAttempt =>
      { context with
        task := { attempts := context.task.attempts + 1, nextAttempt }
        env := (antenna.deploy context.env).2 }

/-- Follows an explicit change of mission time once an attempt has been made. -/
def timeChanged (jump : TimeJump) (task : Deployment) : Deployment :=
  if 0 < task.attempts then
    { task with nextAttempt := task.nextAttempt.movedBy jump }
  else
    task

def action (plan : DeploymentPlan) (antenna : AntennaUnit Env) : Action (Context Deployment Env) :=
  .ofPure "antenna.deploy" (fun context => condition plan context.task context.state)
    (execute plan antenna)

def observation (antenna : AntennaUnit Env) : Update (Context Deployment Env) :=
  { name := "antenna", run := update antenna }

end Deployment

end Cubesat
