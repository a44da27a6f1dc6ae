import Cubesat.Clock.Timekeeper

/-!
Clocks that fail on cue, and observers that note what they are told about
mission time.
-/

namespace Cubesat

structure FickleClock where
  time : Duration
  readFailure : Option DeviceError
  setFailure : Option DeviceError

namespace FickleClock

def start : FickleClock :=
  { time := .zero, readFailure := none, setFailure := none }

/-- The clock's answers; a clock that fails to be set goes on as before. -/
def unit : ClockUnit FickleClock where
  now clock :=
    match clock.readFailure with
    | none => (.ok clock.time, clock)
    | some error => (.error error, clock)
  set time clock :=
    match clock.setFailure with
    | none => (.ok (), { clock with time })
    | some error => (.error error, clock)

end FickleClock

structure TimeNote where
  /-- The observers that were registered before this one. -/
  observer : Nat
  jump : TimeJump

structure ClockBench where
  mcu : FickleClock
  rtc : FickleClock
  observers : TimeObservers (List TimeNote)
  notes : List TimeNote

namespace ClockBench

def start : ClockBench :=
  { mcu := .start, rtc := .start, observers := .empty, notes := [] }

def mcuPart : Lens ClockBench FickleClock where
  get bench := bench.mcu
  set mcu bench := { bench with mcu }

def rtcPart : Lens ClockBench FickleClock where
  get bench := bench.rtc
  set rtc bench := { bench with rtc }

/-- The clocks as a timekeeper is wired to them, with or without the external one. -/
def clocks (rtcFitted : Bool) : Clocks ClockBench where
  mission := FickleClock.unit.through mcuPart
  external := if rtcFitted then some (FickleClock.unit.through rtcPart) else none

def addObserver (bench : ClockBench) : Except MissionError Unit × ClockBench :=
  let observer := bench.observers.entries.length
  match bench.observers.add fun jump notes => notes ++ [{ observer, jump }] with
  | .ok observers => (.ok (), { bench with observers })
  | .error error => (.error error, bench)

def update (rtcFitted : Bool) (context : Context Timekeeper ClockBench) :
    UpdateResult × Context Timekeeper ClockBench :=
  let ((result, jump), context) := Timekeeper.update (clocks rtcFitted) context
  let bench := context.env
  let notes := bench.observers.notifyIf jump bench.notes
  (result, { context with env := { bench with notes } })

def setTime (rtcFitted : Bool) (time : Duration) (context : Context Timekeeper ClockBench) :
    Bool × Context Timekeeper ClockBench :=
  let (accepted, task, env) := context.task.setTime (clocks rtcFitted) time context.env
  (accepted, { context with task, env })

end ClockBench

end Cubesat
