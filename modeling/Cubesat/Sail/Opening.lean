import Cubesat.Mission.Action
import Cubesat.Sail.Sequence
import Cubesat.State

/-!
Opening the sail.

Steps without a delay run back to back in one cycle; a delay hands control back
until it has passed. A step that fails is repeated in the next cycle. An opening
that a reset interrupted starts over.
-/

namespace Cubesat

universe u

structure SailOpening where
  /-- The number of steps of the current or last sequence that are done. -/
  step : Nat
  /-- The next step is not tried before this mission time. -/
  nextStep : Duration
  inProgress : Bool
  /-- The next update has a request to open the sail. -/
  requested : Bool
  deriving DecidableEq

namespace SailOpening

variable {Env : Type u}

def start : SailOpening :=
  { step := 0, nextStep := .zero, inProgress := false, requested := false }

/-- Leaves a request for the next update; returns whether no sequence is running now. -/
def requestOpen (task : SailOpening) : Bool × SailOpening :=
  (!task.inProgress, { task with requested := true })

def startsUnasked (autoOpen : Option Duration) (state : SystemState) : Bool :=
  match state.settings.sail with
  | .opening => true
  | .opened => false
  | .closed =>
      match autoOpen with
      | none => false
      | some time => decide (time ≤ state.time)

def observed (task : SailOpening) (record : SailRecord) : SailState :=
  if task.inProgress then .opening
  else if record = .opened then .openingStopped
  else .waiting

/-- Starts a sequence if one is asked for or due and none is running, and observes the stage. -/
def update (autoOpen : Option Duration) (context : Context SailOpening Env) :
    UpdateResult × Context SailOpening Env :=
  let asked := context.task.requested
  let task := { context.task with requested := false }
  let (task, state) :=
    if !task.inProgress && (asked || startsUnasked autoOpen context.state) then
      ({ task with inProgress := true, step := 0, nextStep := context.state.time },
        context.state.set (.sail .opening))
    else
      (task, context.state)
  (.ok, { context with task, state := { state with sail := task.observed state.settings.sail } })

def condition (task : SailOpening) (state : SystemState) : Bool :=
  task.inProgress && decide (task.nextStep ≤ state.time) &&
    decide (task.step < SailStep.sequence.length)

def finishIfDone (context : Context SailOpening Env) : Context SailOpening Env :=
  if SailStep.sequence.length ≤ context.task.step then
    { context with
      task := { context.task with inProgress := false }
      state := { context.state.set (.sail .opened) with sail := .openingStopped } }
  else
    context

/-- Performs the given steps up to one that fails or has a delay. -/
def perform (power : PowerUnit Env) :
    List SailStep → Context SailOpening Env → Except Fault (Context SailOpening Env)
  | [], context => .ok (finishIfDone context)
  | step :: rest, context =>
      match power.operate step.operation context.env with
      | (.error _, env) => .ok { context with env }
      | (.ok (), env) =>
          let task := { context.task with step := context.task.step + 1 }
          if .zero < step.delayAfter then
            (context.state.time.addOrFault step.delayAfter).map fun nextStep =>
              finishIfDone { context with task := { task with nextStep }, env }
          else
            perform power rest { context with task, env }

def execute (power : PowerUnit Env) (context : Context SailOpening Env) :
    Except Fault (Context SailOpening Env) :=
  perform power (SailStep.sequence.drop context.task.step) context

/-- Follows an explicit change of mission time while a sequence is running. -/
def timeChanged (jump : TimeJump) (task : SailOpening) : SailOpening :=
  if task.inProgress then { task with nextStep := task.nextStep.movedBy jump } else task

def action (power : PowerUnit Env) : Action (Context SailOpening Env) :=
  .ofPure "sail.open" (fun context => condition context.task context.state) (execute power)

def observation (autoOpen : Option Duration) : Update (Context SailOpening Env) :=
  { name := "sail", run := update autoOpen }

def consistency (state : SystemState) : VerifyResult :=
  match state.sail, state.settings.sail with
  | .waiting, .closed => .ok
  | .opening, .opening => .ok
  | .openingStopped, .opened => .ok
  | _, _ => .failure

end SailOpening

end Cubesat
