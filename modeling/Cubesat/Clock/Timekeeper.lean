import Cubesat.Clock.Blend
import Cubesat.Clock.Unit
import Cubesat.Mission.Schedule
import Cubesat.State

/-!
Keeping mission time in step with the clocks.

Mission time follows the mission clock, blended with an external clock where
one is fitted. An explicit change of mission time is applied by the next
update, and everything that keeps time stamps is told about it before any
action sees the new time.
-/

namespace Cubesat

universe u

structure Clocks (Env : Type u) where
  mission : ClockUnit Env
  external : Option (ClockUnit Env)

/-- Mission time and the external clock's reading at the last correction. -/
structure ClockReference where
  mission : Duration
  external : Duration
  deriving DecidableEq

structure Timekeeper where
  reference : Option ClockReference
  /-- An explicit change of mission time that the next update applies. -/
  pending : Option Duration
  deriving DecidableEq

namespace Timekeeper

variable {Env : Type u}

def start : Timekeeper :=
  { reference := none, pending := none }

/--
Schedules an explicit change of mission time; returns whether the mission clock
took it. The external clock is set as well, with or without success.
-/
def setTime (clocks : Clocks Env) (time : Duration) (task : Timekeeper) (env : Env) :
    Bool × Timekeeper × Env :=
  match clocks.mission.set time env with
  | (.error _, env) => (false, task, env)
  | (.ok (), env) =>
      let env :=
        match clocks.external with
        | none => env
        | some external => (external.set time env).2
      (true, { reference := none, pending := some time }, env)

/--
Mission time for a reading of the mission clock. With a reference, the times
that elapsed on both clocks since then are blended, and the mission clock is
set to the result where it differs.
-/
def correct (clocks : Clocks Env) (weights : ClockWeights) (mcu : Duration) (task : Timekeeper)
    (env : Env) : Duration × Timekeeper × Env :=
  match clocks.external with
  | none => (mcu, task, env)
  | some external =>
      match external.now env with
      | (.error _, env) => (mcu, task, env)
      | (.ok reading, env) =>
          let corrected :=
            match task.reference with
            | none => mcu
            | some reference =>
                blend reference.mission (mcu.saturatingSub reference.mission)
                  (reading.saturatingSub reference.external) weights
          let task := { task with reference := some { mission := corrected, external := reading } }
          (corrected, task, if corrected = mcu then env else (clocks.mission.set corrected env).2)

/--
Brings mission time up to date. An explicit change comes first and is returned;
otherwise the mission clock is read, and a reading before mission time leaves
mission time as it is.
-/
def update (clocks : Clocks Env) (context : Context Timekeeper Env) :
    (UpdateResult × Option TimeJump) × Context Timekeeper Env :=
  match context.task.pending with
  | some time =>
      ((.ok, some { previous := context.state.time, current := time }),
        { context with
          task := { context.task with pending := none }
          state := { context.state with time } })
  | none =>
      match clocks.mission.now context.env with
      | (.error _, env) => ((.failure, none), { context with env })
      | (.ok now, env) =>
          if now < context.state.time then
            ((.warning, none), { context with env })
          else
            let (time, task, env) :=
              correct clocks context.state.settings.clockWeights now context.task env
            ((.ok, none), { task, state := { context.state with time }, env })

end Timekeeper

abbrev TimeObserver (State : Type u) := TimeJump → State → State

structure TimeObservers (State : Type u) where
  entries : List (TimeObserver State)

namespace TimeObservers

variable {State : Type u}

/-- The most observers that can be registered. -/
def capacity : Nat := 8

def empty : TimeObservers State :=
  { entries := [] }

def add (observer : TimeObserver State) (observers : TimeObservers State) :
    Except MissionError (TimeObservers State) :=
  if observers.entries.length < capacity then
    .ok { entries := observers.entries ++ [observer] }
  else
    .error .tooManyTimeObservers

def notify (observers : TimeObservers State) (jump : TimeJump) (state : State) : State :=
  observers.entries.foldl (fun state observer => observer jump state) state

def notifyIf (observers : TimeObservers State) : Option TimeJump → State → State
  | none, state => state
  | some jump, state => observers.notify jump state

end TimeObservers

end Cubesat
