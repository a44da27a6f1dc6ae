import Cubesat.Mission.Schedule

/-!
Mission loops over a few registers, to rehearse what a schedule does with the
results of its entries.
-/

namespace Cubesat

structure Registers where
  cells : List Int64
  log : List String
  reports : List CycleReport
  pauses : List Nat
  deriving DecidableEq

namespace Registers

def zero : Registers :=
  { cells := [0, 0, 0, 0], log := [], reports := [], pauses := [] }

def read (index : Nat) (registers : Registers) : Int64 :=
  registers.cells.getD index 0

def write (index : Nat) (value : Int64) (registers : Registers) : Registers :=
  { registers with cells := registers.cells.set index value }

end Registers

inductive RegisterTest where
  | always (answer : Bool)
  | equal (index : Nat) (value : Int64)
  | less (index : Nat) (value : Int64)
  | atLeast (index : Nat) (value : Int64)

def RegisterTest.holds (registers : Registers) : RegisterTest → Bool
  | always answer => answer
  | equal index value => registers.read index == value
  | less index value => decide (registers.read index < value)
  | atLeast index value => decide (value ≤ registers.read index)

inductive RegisterEffect where
  | set (index : Nat) (value : Int64)
  | add (index : Nat) (value : Int64)
  | copy (target source : Nat)
  | log (line : String)

def RegisterEffect.run (registers : Registers) : RegisterEffect → Registers
  | set index value => registers.write index value
  | add index value => registers.write index (registers.read index + value)
  | copy target source => registers.write target (registers.read source)
  | log line => { registers with log := line :: registers.log }

def RegisterEffect.runAll (effects : List RegisterEffect) (registers : Registers) : Registers :=
  effects.foldl RegisterEffect.run registers

/-- A mission loop over registers, with the period of its cycles and its last report. -/
structure RegisterMission where
  loop : MissionLoop Registers
  period : Duration
  last : CycleReport

namespace RegisterMission

def start (period : Duration) : RegisterMission :=
  { loop := .start .zero, period, last := .empty }

def registersPart : Lens RegisterMission Registers where
  get mission := mission.loop.state
  set state mission := { mission with loop := { mission.loop with state } }

def register (add : Schedule Registers → Except MissionError (Schedule Registers))
    (mission : RegisterMission) : Except MissionError Unit × RegisterMission :=
  let done := mission.loop.register add
  (done.1, { mission with loop := done.2 })

def runCycle (mission : RegisterMission) : Except Fault (CycleReport × RegisterMission) :=
  mission.loop.runCycle.map fun (report, loop) => (report, { mission with loop, last := report })

def runLimit : Nat := 50

/-- Runs cycles for as long as a question is answered with yes after them. -/
def run (test : RegisterTest) (mission : RegisterMission) : Except Fault RegisterMission :=
  let pause (registers : Registers) : Registers :=
    { registers with pauses := pauseMillis mission.period :: registers.pauses }
  let keepRunning (report : CycleReport) (registers : Registers) : Bool × Registers :=
    let reports := report :: registers.reports
    (test.holds registers && decide (reports.length < runLimit), { registers with reports })
  let fresh := registersPart.modify (fun r => { r with reports := [], pauses := [] }) mission
  (fresh.loop.run pause keepRunning runLimit).map fun loop =>
    { mission with loop, last := loop.state.reports.headD mission.last }

end RegisterMission

end Cubesat
