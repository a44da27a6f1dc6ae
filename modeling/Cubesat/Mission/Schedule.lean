import Cubesat.Mission.Action

/-!
The mission cycle: all updates, then all checks, then the actions whose
condition held after the updates.
-/

namespace Cubesat

universe u

inductive MissionError where
  | tooManyUpdates (name : String)
  | tooManyVerifies (name : String)
  | tooManyActions (name : String)
  | tooManyTimeObservers
  deriving DecidableEq

def MissionError.message : MissionError → String
  | tooManyUpdates name => "update table full, cannot register '" ++ name ++ "'"
  | tooManyVerifies name => "verify table full, cannot register '" ++ name ++ "'"
  | tooManyActions name => "action table full, cannot register '" ++ name ++ "'"
  | tooManyTimeObservers => "time observer table full"

/-- What happened in one cycle, in the order in which it happened. -/
structure CycleReport where
  cycle : UInt64
  updates : List (String × UpdateResult)
  verifications : List (String × VerifyResult)
  executed : List String
  deriving DecidableEq

namespace CycleReport

def empty : CycleReport :=
  { cycle := 0, updates := [], verifications := [], executed := [] }

/-- The result of the first update of a name. -/
def updateResult? (report : CycleReport) (name : String) : Option UpdateResult :=
  report.updates.lookup name

def wasExecuted (report : CycleReport) (name : String) : Bool :=
  report.executed.contains name

def hasFailures (report : CycleReport) : Bool :=
  report.updates.any (fun entry => entry.2 = .failure) ||
    report.verifications.any (fun entry => entry.2 = .failure)

end CycleReport

/-- The entries of a mission cycle in the order of their registration. -/
structure Schedule (State : Type u) where
  updates : List (Update State)
  verifies : List (Verify State)
  actions : List (Action State)

namespace Schedule

variable {State : Type u}

def maxUpdates : Nat := 16

def maxVerifies : Nat := 8

def maxActions : Nat := 32

def defaultPeriod : Duration := .ofSeconds 10

def empty : Schedule State :=
  { updates := [], verifies := [], actions := [] }

def addUpdate (update : Update State) (schedule : Schedule State) :
    Except MissionError (Schedule State) :=
  if schedule.updates.length < maxUpdates then
    .ok { schedule with updates := schedule.updates ++ [update] }
  else
    .error (.tooManyUpdates update.name)

def addVerify (verify : Verify State) (schedule : Schedule State) :
    Except MissionError (Schedule State) :=
  if schedule.verifies.length < maxVerifies then
    .ok { schedule with verifies := schedule.verifies ++ [verify] }
  else
    .error (.tooManyVerifies verify.name)

def addAction (action : Action State) (schedule : Schedule State) :
    Except MissionError (Schedule State) :=
  if schedule.actions.length < maxActions then
    .ok { schedule with actions := schedule.actions ++ [action] }
  else
    .error (.tooManyActions action.name)

def runUpdates : List (Update State) → State → List (String × UpdateResult) × State
  | [], state => ([], state)
  | update :: rest, state =>
      let done := update.run state
      let others := runUpdates rest done.2
      ((update.name, done.1) :: others.1, others.2)

def runVerifies (verifies : List (Verify State)) (state : State) : List (String × VerifyResult) :=
  verifies.map fun verify => (verify.name, verify.run state)

/-- The actions whose condition holds, asked one after the other. -/
def selectRunnable : List (Action State) → State → List (Action State) × State
  | [], state => ([], state)
  | action :: rest, state =>
      let asked := action.condition state
      let others := selectRunnable rest asked.2
      (if asked.1 then action :: others.1 else others.1, others.2)

/-- Executes actions one after the other, without asking for their condition again. -/
def executeAll (actions : List (Action State)) (state : State) : Except Fault State :=
  actions.foldlM (fun state action => action.execute state) state

def runCycle (schedule : Schedule State) (cycle : UInt64) (state : State) :
    Except Fault (CycleReport × State) :=
  let observed := runUpdates schedule.updates state
  let verifications := runVerifies schedule.verifies observed.2
  let runnable := selectRunnable schedule.actions observed.2
  (executeAll runnable.1 runnable.2).map fun state =>
    ({ cycle, updates := observed.1, verifications, executed := runnable.1.map (·.name) }, state)

end Schedule

/-- The pause between two cycles in milliseconds: the period, as far as 32 bits hold it. -/
def pauseMillis (period : Duration) : Nat :=
  min period.millis 4294967295

/-- A schedule at work: the state that it works on and the cycles that it has run. -/
structure MissionLoop (State : Type u) where
  schedule : Schedule State
  state : State
  cycleCount : UInt64

namespace MissionLoop

variable {State : Type u}

def start (state : State) : MissionLoop State :=
  { schedule := .empty, state, cycleCount := 0 }

/-- Registers an entry; a table without room for it stays as it is. -/
def register (add : Schedule State → Except MissionError (Schedule State))
    (mission : MissionLoop State) : Except MissionError Unit × MissionLoop State :=
  match add mission.schedule with
  | .ok schedule => (.ok (), { mission with schedule })
  | .error error => (.error error, mission)

def runCycle (mission : MissionLoop State) : Except Fault (CycleReport × MissionLoop State) :=
  let cycle := mission.cycleCount + 1
  (mission.schedule.runCycle cycle mission.state).map fun (report, state) =>
    (report, { mission with state, cycleCount := cycle })

/--
Runs cycles with a pause after each until `keepRunning` says no, but no more
than `limit` of them.
-/
def run (pause : State → State) (keepRunning : CycleReport → State → Bool × State) :
    (limit : Nat) → MissionLoop State → Except Fault (MissionLoop State)
  | 0, mission => .ok mission
  | limit + 1, mission =>
      match mission.runCycle with
      | .error fault => .error fault
      | .ok (report, mission) =>
          let asked := keepRunning report mission.state
          if asked.1 then
            run pause keepRunning limit { mission with state := pause asked.2 }
          else
            .ok { mission with state := asked.2 }

end MissionLoop

end Cubesat
