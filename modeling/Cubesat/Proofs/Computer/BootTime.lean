import Cubesat.Computer.Cycle
import Cubesat.Proofs.Task.Timing
import Cubesat.Simulator.Bench
import Mathlib.Data.List.ReduceOption

/-!
The periodic power cycle against the readings of the mission clock.

Mission time starts at zero and follows the readings. The power cycle takes
mission time in the first cycle for the time of the boot. This is the first
reading only if the clock could be read in that cycle; if it could not, the
computer is cut off by the first reading that lies far enough from zero.
-/

namespace Cubesat

universe u

def latestReading (readings : List (Option Duration)) : Duration :=
  readings.reduceOption.getLast?.getD .zero

@[simp]
theorem latestReading_concat_none (readings : List (Option Duration)) :
    latestReading (readings ++ [none]) = latestReading readings := by
  simp [latestReading, List.reduceOption_append]

@[simp]
theorem latestReading_concat_some (readings : List (Option Duration)) (reading : Duration) :
    latestReading (readings ++ [some reading]) = reading := by
  simp [latestReading, List.reduceOption_append]

def NeverBack (readings : List (Option Duration)) : Prop :=
  readings.reduceOption.Pairwise (· ≤ ·)

instance (readings : List (Option Duration)) : Decidable (NeverBack readings) :=
  inferInstanceAs (Decidable (readings.reduceOption.Pairwise (· ≤ ·)))

theorem NeverBack.of_append {front rest : List (Option Duration)}
    (neverBack : NeverBack (front ++ rest)) : NeverBack front := by
  rw [NeverBack, List.reduceOption_append, List.pairwise_append] at neverBack
  exact neverBack.1

theorem NeverBack.latestReading_le {readings : List (Option Duration)} {reading : Duration}
    (neverBack : NeverBack (readings ++ [some reading])) : latestReading readings ≤ reading := by
  rw [NeverBack, List.reduceOption_append, List.pairwise_append] at neverBack
  unfold latestReading
  cases last : readings.reduceOption.getLast? with
  | none => exact Nat.zero_le _
  | some latest =>
      exact neverBack.2.2 latest (List.mem_of_getLast? last) reading (by simp)

/-- What the power cycle takes for the time of the boot: the first cycle's reading, or zero. -/
def bootReading (readings : List (Option Duration)) : Duration :=
  readings.head?.join.getD .zero

theorem head?_map_getD (readings : List (Option Duration)) (reading : Option Duration) :
    (readings ++ [reading]).head?.map (·.getD .zero) =
      some (bootReading (readings ++ [reading])) := by
  cases readings with
  | nil => rfl
  | cons first rest => rfl

namespace Computer

variable {Env : Type u}

structure Untimed (before after : Computer Env) : Prop where
  time : after.state.time = before.state.time
  timekeeper : after.timekeeper = before.timekeeper
  powerCycle : after.powerCycle = before.powerCycle

instance : IsPreorder (Computer Env) Untimed where
  refl _ := ⟨rfl, rfl, rfl⟩
  trans _ _ _ early late :=
    ⟨late.time.trans early.time, late.timekeeper.trans early.timekeeper,
      late.powerCycle.trans early.powerCycle⟩

/--
A mission cycle in which the time update comes first, the power cycle is among
the actions, and everything else leaves mission time and both tasks alone.
-/
structure Watches (hardware : Hardware Env) (period : Duration) (schedule : Schedule (Computer Env))
    (front rest : List (Action (Computer Env))) : Prop where
  updates : ∃ others, schedule.updates = timeUpdate hardware.clocks :: others ∧
    ∀ update ∈ others, ∀ computer, Untimed computer (update.run computer).2
  actions : schedule.actions = front ++
    (PeriodicPowerCycle.action period hardware.scrubbing hardware.power).through powerCyclePart ::
      rest
  ahead : ∀ action ∈ front, action.Respects Untimed
  behind : ∀ action ∈ rest, action.Respects Untimed
  name_ahead : "power_cycle" ∉ front.map Action.name
  name_behind : "power_cycle" ∉ rest.map Action.name

theorem watches_schedule (hardware : Hardware Env) (config : MissionConfig) (limit : ErrorLimit) :
    Watches hardware config.powerCyclePeriod (schedule hardware config limit)
      ((schedule hardware config limit).actions.take 4)
      ((schedule hardware config limit).actions.drop 5) where
  updates := by
    refine ⟨(schedule hardware config limit).updates.tail, rfl, ?_⟩
    intro update membership computer
    simp only [schedule, List.tail_cons, List.mem_cons, List.not_mem_nil, or_false] at membership
    rcases membership with rfl | rfl | rfl
    · exact ⟨Deployment.update_sameTime hardware.antenna (deploymentPart.get computer), rfl, rfl⟩
    · exact ⟨rfl, rfl, rfl⟩
    · exact ⟨SailOpening.update_time config.sailAutoOpen (sailPart.get computer), rfl, rfl⟩
  actions := rfl
  ahead action membership := by
    simp only [schedule, List.take_succ_cons, List.take_zero, List.mem_cons, List.not_mem_nil,
      or_false] at membership
    rcases membership with rfl | rfl | rfl | rfl
    · exact Action.through_respects (fun _ _ same => ⟨same, rfl, rfl⟩)
        (Deployment.action_sameTime config.deployment hardware.antenna)
    · exact Action.through_respects (fun _ _ same => ⟨same, rfl, rfl⟩)
        (Detumbling.action_sameTime config.detumbling hardware.adcs)
    · exact Action.through_respects (fun _ _ same => ⟨same, rfl, rfl⟩)
        (SailOpening.action_sameTime hardware.power)
    · exact Action.through_respects (fun _ _ same => ⟨same, rfl, rfl⟩)
        (Broadcast.action_sameTime config.beaconInterval (hardware.transmitter limit))
  behind action membership := by
    simp only [schedule, List.drop_succ_cons, List.drop_zero, List.mem_cons, List.not_mem_nil,
      or_false] at membership
    rw [membership]
    refine ⟨fun _ => Std.Refl.refl _, ?_⟩
    intro before after executed
    cases executed
    exact ⟨hardware.storage.flush_time before.state before.env, rfl, rfl⟩
  name_ahead := by
    simp [schedule, Action.through, Deployment.action, Detumbling.action, SailOpening.action,
      Broadcast.action, Action.ofPure, Action.composite]
  name_behind := by
    simp [schedule, Action.through, StorageUnit.saveAction, Action.ofPure]

def reading (hardware : Hardware Env) (computer : Computer Env) : Option Duration :=
  (hardware.clocks.mission.now computer.env).1.toOption

/--
Mission cycles from a boot, with the readings of the mission clock, one for each
cycle. Between the cycles everything may change but mission time and the tasks
that are about it.
-/
inductive Watched (hardware : Hardware Env) (period : Duration) :
    List (Option Duration) → Computer Env → Prop
  | boot {computer : Computer Env} (time : computer.state.time = .zero)
      (timekeeper : computer.timekeeper = .start) (powerCycle : computer.powerCycle = .start) :
      Watched hardware period [] computer
  | between {readings : List (Option Duration)} {before after : Computer Env}
      (watched : Watched hardware period readings before) (untimed : Untimed before after) :
      Watched hardware period readings after
  | cycle {readings : List (Option Duration)} {before after : Computer Env}
      (watched : Watched hardware period readings before) {schedule : Schedule (Computer Env)}
      {front rest : List (Action (Computer Env))}
      (watches : Watches hardware period schedule front rest) {count : UInt64}
      {report : CycleReport} (ran : schedule.runCycle count before = .ok (report, after)) :
      Watched hardware period (readings ++ [reading hardware before]) after

def powerCycleAsked (schedule : Schedule (Computer Env)) (front : List (Action (Computer Env)))
    (before : Computer Env) : Computer Env :=
  (Schedule.selectRunnable front (Schedule.runUpdates schedule.updates before).2).2

/-- Without an external clock and without an explicit change mission time follows the reading. -/
theorem timeUpdate_unfitted {hardware : Hardware Env} (unfitted : hardware.clocks.external = none)
    {before : Computer Env} (clear : before.timekeeper.pending = none) :
    ((timeUpdate hardware.clocks).run before).2.timekeeper = before.timekeeper ∧
      ((timeUpdate hardware.clocks).run before).2.powerCycle = before.powerCycle ∧
      ((timeUpdate hardware.clocks).run before).2.state.time =
        match reading hardware before with
        | none => before.state.time
        | some now => if now < before.state.time then before.state.time else now := by
  rcases answer : hardware.clocks.mission.now before.env with ⟨error | now, env⟩
  · simp [timeUpdate, timekeeperPart, Timekeeper.update, TimeObservers.notifyIf, reading, clear,
      answer, Except.toOption]
  · by_cases behind : now < before.state.time
    · simp [timeUpdate, timekeeperPart, Timekeeper.update, TimeObservers.notifyIf, reading, clear,
        answer, Except.toOption, behind]
    · simp [timeUpdate, timekeeperPart, Timekeeper.update, Timekeeper.correct,
        TimeObservers.notifyIf, reading, clear, unfitted, answer, Except.toOption, behind]

namespace Watches

variable {hardware : Hardware Env} {period : Duration} {schedule : Schedule (Computer Env)}
  {front rest : List (Action (Computer Env))}
  (watches : Watches hardware period schedule front rest)

include watches

theorem untimed_asked (before : Computer Env) :
    Untimed ((timeUpdate hardware.clocks).run before).2
      (powerCycleAsked schedule front before) := by
  obtain ⟨others, updates, each⟩ := watches.updates
  have observed := Schedule.runUpdates_along each ((timeUpdate hardware.clocks).run before).2
  have prepared := Schedule.selectRunnable_along
    (fun action membership => (watches.ahead action membership).condition)
    (Schedule.runUpdates others ((timeUpdate hardware.clocks).run before).2).2
  rw [powerCycleAsked, updates]
  exact IsTrans.trans _ _ _ observed prepared

theorem execute_untimed {action : Action (Computer Env)} (membership : action ∈ schedule.actions)
    {before after : Computer Env} (executed : action.execute before = .ok after) :
    Untimed before after := by
  rw [watches.actions, List.mem_append, List.mem_cons] at membership
  rcases membership with inFront | rfl | inRest
  · exact (watches.ahead action inFront).execute before after executed
  · cases executed
    exact ⟨rfl, rfl, rfl⟩
  · exact (watches.behind action inRest).execute before after executed

/-- A cycle asks the power cycle once, executes it if it is due, and moves no time after that. -/
theorem runCycle_asks {count : UInt64} {report : CycleReport} {before after : Computer Env}
    (ran : schedule.runCycle count before = .ok (report, after)) :
    let question := powerCyclePart.get (powerCycleAsked schedule front before)
    let answer := PeriodicPowerCycle.condition period hardware.scrubbing question
    ("power_cycle" ∈ report.executed ↔ answer.1 = true) ∧
      Untimed (powerCyclePart.set answer.2 (powerCycleAsked schedule front before)) after := by
  intro question answer
  obtain ⟨executed, names⟩ := Schedule.runCycle_eq_ok ran
  have untimed := Schedule.executeAll_along (fun action membership _ _ =>
    watches.execute_untimed ((Schedule.selectRunnable_sublist _ _).subset membership)) executed
  rw [watches.actions] at names untimed
  constructor
  · rw [names]
    exact Schedule.name_mem_selectRunnable_iff watches.name_ahead watches.name_behind _
  · rw [Schedule.selectRunnable_append] at untimed
    have later := Schedule.selectRunnable_along
      (fun action membership => (watches.behind action membership).condition)
      (powerCyclePart.set answer.2 (powerCycleAsked schedule front before))
    exact IsTrans.trans _ _ _ later untimed

end Watches

/-- Mission time is the latest reading, and the boot was at the first cycle's, or at zero. -/
structure Clocked (readings : List (Option Duration)) (computer : Computer Env) : Prop where
  pending : computer.timekeeper.pending = none
  time : computer.state.time = latestReading readings
  bootTime : computer.powerCycle.bootTime = readings.head?.map (·.getD .zero)

namespace Clocked

variable {hardware : Hardware Env} {period : Duration} {readings : List (Option Duration)}
  {before : Computer Env} (clocked : Clocked readings before)

include clocked

theorem untimed {after : Computer Env} (same : Untimed before after) : Clocked readings after where
  pending := by rw [same.timekeeper, clocked.pending]
  time := by rw [same.time, clocked.time]
  bootTime := by rw [same.powerCycle, clocked.bootTime]

theorem observed_time (unfitted : hardware.clocks.external = none)
    (neverBack : NeverBack (readings ++ [reading hardware before])) :
    ((timeUpdate hardware.clocks).run before).2.state.time =
      latestReading (readings ++ [reading hardware before]) := by
  obtain ⟨-, -, time⟩ := timeUpdate_unfitted unfitted clocked.pending
  rw [time]
  cases answer : reading hardware before with
  | none =>
      rw [latestReading_concat_none]
      exact clocked.time
  | some now =>
      rw [answer] at neverBack
      have ahead := neverBack.latestReading_le
      rw [← clocked.time] at ahead
      rw [latestReading_concat_some]
      exact if_neg (Nat.not_lt.mpr ahead)

/-- The first cycle's reading is taken for the boot, and kept by every later cycle. -/
theorem bootTime_getD (reading : Option Duration) :
    before.powerCycle.bootTime.getD (latestReading (readings ++ [reading])) =
      bootReading (readings ++ [reading]) := by
  rw [clocked.bootTime]
  cases readings with
  | cons first rest => cases first <;> rfl
  | nil => cases reading <;> rfl

theorem cycle {schedule : Schedule (Computer Env)} {front rest : List (Action (Computer Env))}
    (watches : Watches hardware period schedule front rest)
    (unfitted : hardware.clocks.external = none) {count : UInt64} {report : CycleReport}
    {after : Computer Env} (ran : schedule.runCycle count before = .ok (report, after))
    (neverBack : NeverBack (readings ++ [reading hardware before])) :
    Clocked (readings ++ [reading hardware before]) after ∧
      ("power_cycle" ∈ report.executed ↔
        period ≤ (latestReading (readings ++ [reading hardware before])).saturatingSub
            (bootReading (readings ++ [reading hardware before])) ∧
          (hardware.scrubbing (powerCycleAsked schedule front before).env).anyBusy = false) := by
  obtain ⟨timekeeper, powerCycle, -⟩ := timeUpdate_unfitted unfitted clocked.pending
  have time := clocked.observed_time unfitted neverBack
  have prepared := watches.untimed_asked before
  obtain ⟨executed, finished⟩ := watches.runCycle_asks ran
  have askedTime := prepared.time.trans time
  have bootTime := clocked.bootTime_getD (reading hardware before)
  rw [← powerCycle, ← prepared.powerCycle] at bootTime
  constructor
  · refine ⟨?_, finished.time.trans askedTime, ?_⟩
    · rw [finished.timekeeper]
      exact (congrArg _ (prepared.timekeeper.trans timekeeper)).trans clocked.pending
    · rw [finished.powerCycle, head?_map_getD, ← bootTime, ← askedTime]
      rfl
  · rw [executed]
    simp only [PeriodicPowerCycle.condition, powerCyclePart, askedTime, bootTime,
      Bool.and_eq_true, decide_eq_true_eq, Bool.not_eq_true']

end Clocked

theorem Watched.clocked {hardware : Hardware Env} {period : Duration}
    {readings : List (Option Duration)} {computer : Computer Env}
    (watched : Watched hardware period readings computer)
    (unfitted : hardware.clocks.external = none) (neverBack : NeverBack readings) :
    Clocked readings computer := by
  induction watched with
  | boot time timekeeper powerCycle =>
      refine ⟨?_, time, ?_⟩
      · rw [timekeeper]
        rfl
      · rw [powerCycle]
        rfl
  | between _ untimed inductionHypothesis =>
      exact (inductionHypothesis neverBack).untimed untimed
  | cycle _ watches ran inductionHypothesis =>
      exact ((inductionHypothesis neverBack.of_append).cycle watches unfitted ran neverBack).1

/-- Before the first successful reading no time has passed, and no period is over. -/
theorem period_le_iff {period : Duration} (positive : .zero < period)
    (readings : List (Option Duration)) (boot : Duration) :
    period ≤ (latestReading readings).saturatingSub boot ↔
      ∃ latest, readings.reduceOption.getLast? = some latest ∧
        boot.nanos + period.nanos ≤ latest.nanos := by
  rw [Duration.lt_iff, Duration.nanos_zero] at positive
  rw [Duration.le_iff, Duration.nanos_saturatingSub, latestReading]
  cases readings.reduceOption.getLast? with
  | none =>
      simp only [Option.getD_none, Duration.nanos_zero, reduceCtorEq, false_and, exists_false,
        iff_false]
      omega
  | some latest =>
      simp only [Option.getD_some, Option.some.injEq, exists_eq_left']
      omega

/--
The power cycle is executed in the cycles in which the latest reading lies a
period after the reading of the first cycle, or after zero if that one failed,
and in which nothing is scrubbed. After a first cycle that could read the clock
it is never executed before a period has passed since the first reading.
-/
theorem power_cycle_executed_iff {hardware : Hardware Env} {period : Duration}
    (unfitted : hardware.clocks.external = none) (positive : .zero < period)
    {readings : List (Option Duration)} {before : Computer Env}
    (watched : Watched hardware period readings before) {schedule : Schedule (Computer Env)}
    {front rest : List (Action (Computer Env))}
    (watches : Watches hardware period schedule front rest) {count : UInt64} {report : CycleReport}
    {after : Computer Env} (ran : schedule.runCycle count before = .ok (report, after))
    (neverBack : NeverBack (readings ++ [reading hardware before])) :
    let all := readings ++ [reading hardware before]
    ("power_cycle" ∈ report.executed ↔
      (∃ latest, all.reduceOption.getLast? = some latest ∧
        (bootReading all).nanos + period.nanos ≤ latest.nanos) ∧
      (hardware.scrubbing (powerCycleAsked schedule front before).env).anyBusy = false) ∧
    ∀ first, all.head? = some (some first) → "power_cycle" ∈ report.executed →
      ∃ latest, all.reduceOption.head? = some first ∧
        all.reduceOption.getLast? = some latest ∧ first.nanos + period.nanos ≤ latest.nanos := by
  intro all
  have clocked := watched.clocked unfitted neverBack.of_append
  have executed := (clocked.cycle watches unfitted ran neverBack).2
  rw [period_le_iff positive] at executed
  refine ⟨executed, ?_⟩
  intro first starts membership
  obtain ⟨⟨latest, last, passed⟩, -⟩ := executed.mp membership
  have boot : bootReading all = first := by
    rw [bootReading, starts]
    rfl
  refine ⟨latest, ?_, last, boot ▸ passed⟩
  obtain ⟨others, parts⟩ := List.head?_eq_some_iff.mp starts
  rw [parts]
  rfl

/-- A bench with a mission clock that does not answer at its zero. -/
def drowsy : Hardware Bench :=
  { Bench.hardware false with
    clocks :=
      { mission :=
          { now := fun bench =>
              (if bench.clock = .zero then .error .notResponding else .ok bench.clock, bench)
            set := fun time bench => (.ok (), { bench with clock := time }) }
        external := none } }

def bootedAt (clock : Duration) : Computer Bench :=
  ofSettings .initial { Bench.fresh with clock }

def secondCycle (boot clock : Duration) : Computer Bench :=
  { bootedAt clock with
    state := { SystemState.initial with time := boot }
    powerCycle := { bootTime := some boot } }

theorem power_cycle_executed_iff_dayLater :
    Watched drowsy PeriodicPowerCycle.standardPeriod [some (.ofSeconds 10)]
        (secondCycle (.ofSeconds 10) (.ofSeconds 86410)) ∧
      ∃ report after, (schedule drowsy .standard (.ofByte 5)).runCycle 2
          (secondCycle (.ofSeconds 10) (.ofSeconds 86410)) = .ok (report, after) ∧
        "power_cycle" ∈ report.executed := by
  have booted : Watched drowsy PeriodicPowerCycle.standardPeriod [] (bootedAt (.ofSeconds 10)) :=
    .boot rfl rfl rfl
  have watches := watches_schedule drowsy .standard (.ofByte 5)
  have ran : (schedule drowsy .standard (.ofByte 5)).runCycle 1 (bootedAt (.ofSeconds 10)) =
      .ok (_, secondCycle (.ofSeconds 10) (.ofSeconds 10)) := rfl
  have watched : Watched drowsy PeriodicPowerCycle.standardPeriod [some (.ofSeconds 10)]
      (secondCycle (.ofSeconds 10) (.ofSeconds 86410)) :=
    (booted.cycle watches ran).between ⟨rfl, rfl, rfl⟩
  refine ⟨watched, _, _, rfl, ?_⟩
  apply (power_cycle_executed_iff rfl (by decide) watched watches rfl (by decide)).1.mpr
  exact ⟨⟨.ofSeconds 86410, rfl, by decide⟩, rfl⟩

/-- The first reading itself causes a power cycle if the clock fails in the first cycle. -/
theorem power_cycle_at_first_reading :
    Watched drowsy PeriodicPowerCycle.standardPeriod [none]
        (secondCycle .zero (.ofSeconds 100000)) ∧
      ∃ report after, (schedule drowsy .standard (.ofByte 5)).runCycle 2
          (secondCycle .zero (.ofSeconds 100000)) = .ok (report, after) ∧
        "power_cycle" ∈ report.executed ∧
        ¬ ∃ first latest,
          [none, reading drowsy (secondCycle .zero (.ofSeconds 100000))].reduceOption.head? =
            some first ∧
          [none, reading drowsy (secondCycle .zero (.ofSeconds 100000))].reduceOption.getLast? =
            some latest ∧
          first.nanos + PeriodicPowerCycle.standardPeriod.nanos ≤ latest.nanos := by
  have booted : Watched drowsy PeriodicPowerCycle.standardPeriod [] (bootedAt .zero) :=
    .boot rfl rfl rfl
  have ran : (schedule drowsy .standard (.ofByte 5)).runCycle 1 (bootedAt .zero) =
      .ok (_, secondCycle .zero .zero) := rfl
  have first := booted.cycle (watches_schedule drowsy .standard (.ofByte 5)) ran
  refine ⟨first.between ⟨rfl, rfl, rfl⟩, _, _, rfl, by decide, ?_⟩
  rintro ⟨first, latest, starts, ends, passed⟩
  cases starts
  cases ends
  exact absurd passed (by decide)

end Computer

end Cubesat
