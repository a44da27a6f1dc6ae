import Cubesat.Mission.Action
import Cubesat.State

/-!
Detumbling within a window of mission time. Start and stop share one place in
the schedule, and both are repeated every cycle until the coordinator accepts
them.
-/

namespace Cubesat

universe u

structure DetumblingWindow where
  /-- Detumbling does not start before this time. -/
  opens : Duration
  /-- Detumbling does not start at this time or later, and is stopped. -/
  closes : Duration
  deriving DecidableEq

def DetumblingWindow.standard : DetumblingWindow :=
  { opens := .ofSeconds 2400, closes := .ofSeconds 10800 }

inductive Detumbling where
  | idle
  | detumbling
  | finished
  deriving DecidableEq

namespace Detumbling

variable {Env : Type u}

def name : Detumbling → String
  | idle => "Idle"
  | detumbling => "Detumbling"
  | finished => "Finished"

def update (adcs : AdcsUnit Env) (context : Context Detumbling Env) :
    UpdateResult × Context Detumbling Env :=
  (.ok, { context with state := { context.state with adcs := adcs.mode context.env } })

def canStart (window : DetumblingWindow) (state : SystemState) : Bool :=
  decide (window.opens ≤ state.time) && decide (state.time < window.closes) &&
    decide (state.adcs = .stopped) && state.antenna.deployed && !state.settings.detumblingDisabled

def requestStart (adcs : AdcsUnit Env) (context : Context Detumbling Env) :
    Context Detumbling Env :=
  match adcs.startDetumbling context.env with
  | (.ok (), env) => { context with task := .detumbling, env }
  | (.error _, env) => { context with env }

def canStop (window : DetumblingWindow) (task : Detumbling) (state : SystemState) : Bool :=
  decide (window.closes ≤ state.time) && decide (task = .detumbling) &&
    decide (state.adcs ≠ .stopped)

def requestStop (adcs : AdcsUnit Env) (context : Context Detumbling Env) :
    Context Detumbling Env :=
  match adcs.stop context.env with
  | (.ok (), env) => { context with task := .finished, env }
  | (.error _, env) => { context with env }

def action (window : DetumblingWindow) (adcs : AdcsUnit Env) : Action (Context Detumbling Env) :=
  .composite "adcs.detumbling"
    [.ofPure "adcs.detumbling.start" (fun context => canStart window context.state)
        fun context => .ok (requestStart adcs context),
      .ofPure "adcs.detumbling.stop" (fun context => canStop window context.task context.state)
        fun context => .ok (requestStop adcs context)]

def observation (adcs : AdcsUnit Env) : Update (Context Detumbling Env) :=
  { name := "adcs.mode", run := update adcs }

end Detumbling

end Cubesat
