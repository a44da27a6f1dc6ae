import Cubesat.Antenna.Basic
import Cubesat.Attitude.Basic
import Cubesat.Clock.Duration
import Cubesat.Lens
import Cubesat.Settings.Basic

/-!
The state that all tasks of a mission cycle share.
-/

namespace Cubesat

universe u v

/-- Everything that a mission cycle observes and decides on. -/
structure SystemState where
  time : Duration
  /-- The antenna elements at the last successful readout. -/
  antenna : AntennaElements
  sail : SailState
  adcs : AdcsMode
  persistent : PersistentState
  deriving DecidableEq

namespace SystemState

def boot (persistent : PersistentState) : SystemState :=
  { time := .zero, antenna := .all false, sail := .waiting, adcs := .stopped, persistent }

def initial : SystemState :=
  boot .initial

def settings (state : SystemState) : Settings :=
  state.persistent.settings

def persistentPart : Lens SystemState PersistentState where
  get state := state.persistent
  set persistent state := { state with persistent }

def set (setting : Setting) (state : SystemState) : SystemState :=
  { state with persistent := state.persistent.set setting }

end SystemState

/-- A task with the state that it shares and the devices that it can reach. -/
structure Context (Task : Type u) (Env : Type v) where
  task : Task
  state : SystemState
  env : Env

namespace Context

variable {Task : Type u} {Env : Type v}

def taskPart : Lens (Context Task Env) Task where
  get context := context.task
  set task context := { context with task }

def statePart : Lens (Context Task Env) SystemState where
  get context := context.state
  set state context := { context with state }

def envPart : Lens (Context Task Env) Env where
  get context := context.env
  set env context := { context with env }

def outerPart : Lens (Context Task Env) (SystemState × Env) where
  get context := (context.state, context.env)
  set outer context := { context with state := outer.1, env := outer.2 }

end Context

end Cubesat
