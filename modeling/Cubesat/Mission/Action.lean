import Cubesat.Fault
import Cubesat.Lens

/-!
The units of work of a mission cycle: updates that observe, checks that verify,
and actions that run when their condition holds.
-/

namespace Cubesat

universe u v

inductive UpdateResult where
  | ok
  /-- A part of the observation is out of date. -/
  | warning
  /-- The observation must not be trusted. -/
  | failure
  deriving DecidableEq

namespace UpdateResult

def all : List UpdateResult :=
  [ok, warning, failure]

def name : UpdateResult → String
  | ok => "Ok"
  | warning => "Warning"
  | failure => "Failure"

end UpdateResult

inductive VerifyResult where
  | ok
  | failure
  deriving DecidableEq

def VerifyResult.name : VerifyResult → String
  | ok => "Ok"
  | failure => "Failure"

/-- An observation that is written into the state every cycle. -/
structure Update (State : Type u) where
  name : String
  run : State → UpdateResult × State

structure Verify (State : Type u) where
  name : String
  run : State → VerifyResult

/-- Work that is done when its condition holds. -/
structure Action (State : Type u) where
  name : String
  /-- Whether the work is to be done; evaluating this may leave a note in the state. -/
  condition : State → Bool × State
  execute : State → Except Fault State

def Update.through {Whole : Type u} {Part : Type v} (lens : Lens Whole Part)
    (update : Update Part) : Update Whole where
  name := update.name
  run := lens.lift update.run

namespace Action

variable {State : Type u} {Whole : Type v}

/-- An action whose condition leaves no note. -/
def ofPure (name : String) (condition : State → Bool) (execute : State → Except Fault State) :
    Action State where
  name
  condition state := (condition state, state)
  execute

def through (lens : Lens Whole State) (action : Action State) : Action Whole where
  name := action.name
  condition := lens.lift action.condition
  execute whole := (action.execute (lens.get whole)).map fun part => lens.set part whole

/-- Whether any action is to be done. Conditions after the first that holds are not asked for. -/
def anyRunnable : List (Action State) → State → Bool × State
  | [], state => (false, state)
  | action :: rest, state =>
      let asked := action.condition state
      if asked.1 then (true, asked.2) else anyRunnable rest asked.2

def runIfRunnable (action : Action State) (state : State) : Except Fault State :=
  let asked := action.condition state
  if asked.1 then action.execute asked.2 else .ok asked.2

/-- Executes those of the actions whose condition holds when their turn comes. -/
def runEach (actions : List (Action State)) (state : State) : Except Fault State :=
  actions.foldlM (fun state action => action.runIfRunnable state) state

/--
Several actions in one place of the schedule, to be done when any of them is.
Each member is asked again when its turn comes.
-/
def composite (name : String) (members : List (Action State)) : Action State where
  name
  condition := anyRunnable members
  execute := runEach members

end Action

end Cubesat
