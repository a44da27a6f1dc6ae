import Cubesat.Beacon.Broadcast
import Cubesat.Power.Periodic
import Cubesat.Proofs.Clock.Passage
import Cubesat.Rehearsal.Device

/-!
The time that elapses until the next beacon and until the power cycle.

Both tasks compare mission time with a stamp of the past that follows explicit
changes of mission time. What they take to have elapsed since is given by the
events alone, and an explicit change can only take something off it.
-/

namespace Cubesat

universe u v

/--
An answer that is given once a time has elapsed since the stamp of a task, or at
once where it is wanted, and only where it is allowed. An explicit change of
mission time does not make it come earlier, and not later unless mission time is
set to less than what has elapsed by then.
-/
structure Paced {Task : Type u} {Env : Type v} (follower : TimeFollower Task)
    (act : Context Task Env → Context Task Env → Prop) (limit : Duration)
    (answer allowed wanted : Context Task Env → Bool) (start : Context Task Env) : Prop where
  lapsed : ∀ events context, AnyPassage follower act start events context →
    ∃ stamp, follower.stamp context.task = some stamp ∧ stamp ≤ context.state.time ∧
      (context.state.time.saturatingSub stamp).nanos = elapsedTime events
  answered : ∀ events context, AnyPassage follower act start events context →
    answer context =
      (allowed context && (wanted context || decide (limit.nanos ≤ elapsedTime events)))
  undisturbed : ∀ front current rest changed unchanged,
    AnyPassage follower act start (front ++ .explicit current :: rest) changed →
    AnyPassage follower act start (front ++ rest) unchanged →
    allowed changed = allowed unchanged → wanted changed = wanted unchanged →
      (answer changed = true → answer unchanged = true) ∧
      (elapsedTime front ≤ current.nanos → answer changed = answer unchanged)

/-- An answer is paced if it compares mission time with the stamp. -/
theorem Paced.of_stamped {Task : Type u} {Env : Type v} {follower : TimeFollower Task}
    {act : Context Task Env → Context Task Env → Prop} {limit : Duration}
    {answer allowed wanted : Context Task Env → Bool} {running : Context Task Env → Prop}
    {start : Context Task Env} (persists : Persists follower act running) (started : running start)
    (stamped : follower.stamp start.task = some start.state.time)
    (compares : ∀ context stamp, follower.stamp context.task = some stamp →
      answer context = (allowed context &&
        (wanted context || decide (limit ≤ context.state.time.saturatingSub stamp)))) :
    Paced follower act limit answer allowed wanted start := by
  have stamps : ∀ events context,
      AnyPassage follower act start events context →
      ∃ stamp, follower.stamp context.task = some stamp ∧ stamp ≤ context.state.time ∧
        (context.state.time.saturatingSub stamp).nanos = elapsedTime events := by
    intro events context passage
    obtain ⟨stamp, same, parts⟩ := passage.elapsed persists started stamped
    refine ⟨stamp, same, ?_, ?_⟩
    · rw [Duration.le_iff]
      omega
    · rw [Duration.nanos_saturatingSub]
      omega
  have answers : ∀ events context,
      AnyPassage follower act start events context →
      answer context =
        (allowed context && (wanted context || decide (limit.nanos ≤ elapsedTime events))) := by
    intro events context passage
    obtain ⟨stamp, same, -, elapsed⟩ := stamps events context passage
    rw [compares context stamp same, ← elapsed]
    rfl
  refine ⟨stamps, answers, ?_⟩
  intro front current rest changed unchanged disturbed undisturbed allowedSame wantedSame
  rw [answers _ _ disturbed, answers _ _ undisturbed, allowedSame, wantedSame]
  constructor
  · simp only [Bool.and_eq_true, Bool.or_eq_true, decide_eq_true_eq]
    rintro ⟨isAllowed, isWanted | elapsed⟩
    · exact ⟨isAllowed, .inl isWanted⟩
    · exact ⟨isAllowed, .inr (elapsed.trans (elapsedTime_jump_le front rest current))⟩
  · intro beyond
    rw [elapsedTime_jump_eq beyond]

/-- Devices with a log of the frames that a transmitter was handed and of its answers. -/
structure FrameLog (Devices : Type u) where
  devices : Devices
  /-- Latest frame first. -/
  handed : List (Bytes × Bool)

def FrameLog.accepted {Devices : Type u} (log : FrameLog Devices) : List Bytes :=
  (log.handed.filter (·.2)).map (·.1)

def Transmitter.logged {Devices : Type u} (transmitter : Transmitter Devices) :
    Transmitter (FrameLog Devices) where
  send frame log :=
    let sent := transmitter.send frame log.devices
    (sent.1, { devices := sent.2, handed := (frame, sent.1) :: log.handed })

namespace Broadcast

variable {Devices : Type u}

def follower : TimeFollower Broadcast where
  timeChanged := timeChanged
  stamp task := task.lastSent
  stamp_timeChanged _ _ := rfl

theorem execute_cases (transmitter : Transmitter Devices)
    (context : Context Broadcast (FrameLog Devices)) :
    (execute transmitter.logged context).state = context.state ∧
      ((execute transmitter.logged context).env.accepted = context.env.accepted ∧
          (execute transmitter.logged context).task = context.task ∨
        (∃ frame, (execute transmitter.logged context).env.accepted =
            frame :: context.env.accepted) ∧
          (execute transmitter.logged context).task =
            { lastSent := some context.state.time, forced := false }) := by
  unfold execute
  cases (Beacon.ofState context.state).encodeWithin? Comm.maxDownlinkSize with
  | none => exact ⟨rfl, .inl ⟨rfl, rfl⟩⟩
  | some frame =>
      cases answer : (transmitter.send frame context.env.devices).1 with
      | false => simp [Transmitter.logged, FrameLog.accepted, answer]
      | true => simp [Transmitter.logged, FrameLog.accepted, answer]

/-- What may happen as long as no beacon is accepted, apart from mission time going by. -/
inductive Idle (transmitter : Transmitter Devices) :
    Context Broadcast (FrameLog Devices) → Context Broadcast (FrameLog Devices) → Prop
  | request (context : Context Broadcast (FrameLog Devices)) :
      Idle transmitter context { context with task := context.task.requestImmediate }
  | elsewhere (context : Context Broadcast (FrameLog Devices)) (state : SystemState)
      (devices : Devices) (time : state.time = context.state.time) :
      Idle transmitter context { context with state, env := { context.env with devices } }
  | execute {context : Context Broadcast (FrameLog Devices)}
      (unaccepted : (execute transmitter.logged context).env.accepted = context.env.accepted) :
      Idle transmitter context (execute transmitter.logged context)

theorem idle_persists (transmitter : Transmitter Devices) :
    Persists follower (Idle transmitter) fun _ => True where
  elapse _ _ _ := trivial
  jump _ _ _ := trivial
  act before after acted _ := by
    cases acted with
    | request => exact ⟨trivial, rfl, rfl⟩
    | elsewhere state devices time => exact ⟨trivial, time, rfl⟩
    | execute unaccepted =>
        obtain ⟨state, ⟨-, task⟩ | ⟨⟨frame, accepted⟩, -⟩⟩ := execute_cases transmitter before
        · exact ⟨trivial, congrArg SystemState.time state, congrArg follower.stamp task⟩
        · rw [accepted] at unaccepted
          exact absurd unaccepted (List.cons_ne_self _ _)

theorem stamp_of_accepted {transmitter : Transmitter Devices}
    {context : Context Broadcast (FrameLog Devices)}
    (accepted : (execute transmitter.logged context).env.accepted ≠ context.env.accepted) :
    follower.stamp (execute transmitter.logged context).task =
      some (execute transmitter.logged context).state.time := by
  obtain ⟨state, ⟨same, -⟩ | ⟨-, task⟩⟩ := execute_cases transmitter context
  · exact absurd same accepted
  · rw [task, state]
    rfl

end Broadcast

namespace PeriodicPowerCycle

variable {Env : Type v}

def follower : TimeFollower PeriodicPowerCycle where
  timeChanged := timeChanged
  stamp task := task.bootTime
  stamp_timeChanged _ _ := rfl

inductive Acts (period : Duration) (scrubbing : Env → Scrubbing) (power : PowerUnit Env) :
    Context PeriodicPowerCycle Env → Context PeriodicPowerCycle Env → Prop
  | elsewhere (context : Context PeriodicPowerCycle Env) (state : SystemState) (env : Env)
      (time : state.time = context.state.time) :
      Acts period scrubbing power context { context with state, env }
  | ask (context : Context PeriodicPowerCycle Env) :
      Acts period scrubbing power context (condition period scrubbing context).2
  | execute (context : Context PeriodicPowerCycle Env) :
      Acts period scrubbing power context (execute power context)

theorem acts_persists (period : Duration) (scrubbing : Env → Scrubbing) (power : PowerUnit Env) :
    Persists follower (Acts period scrubbing power) (·.task.bootTime.isSome = true) where
  elapse _ _ running := running
  jump context current running := by
    simpa [TimeFollower.jump, follower, timeChanged] using running
  act before after acted running := by
    cases acted with
    | elsewhere state env time => exact ⟨running, time, rfl⟩
    | ask =>
        obtain ⟨bootTime, booted⟩ := Option.isSome_iff_exists.mp running
        refine ⟨rfl, rfl, ?_⟩
        simp only [condition, follower, booted, Option.getD_some]
    | execute => exact ⟨running, rfl, rfl⟩

end PeriodicPowerCycle

/--
After an accepted beacon the next regular one, and after the first question the
power cycle, is paced by the elapsed time. The power cycle waits for scrubbers too.
-/
theorem paced_by_elapsed_time {Devices : Type u} {Env : Type v} (interval period : Duration)
    (transmitter : Transmitter Devices) (scrubbing : Env → Scrubbing) (power : PowerUnit Env) :
    (∀ before : Context Broadcast (FrameLog Devices),
      (Broadcast.execute transmitter.logged before).env.accepted ≠ before.env.accepted →
        Paced Broadcast.follower (Broadcast.Idle transmitter) interval
          (fun context => Broadcast.condition interval context.task context.state)
          (fun context => context.state.antenna.deployed)
          (fun context => context.task.forced)
          (Broadcast.execute transmitter.logged before)) ∧
    ∀ before : Context PeriodicPowerCycle Env, before.task.bootTime = none →
      Paced PeriodicPowerCycle.follower (PeriodicPowerCycle.Acts period scrubbing power) period
        (fun context => (PeriodicPowerCycle.condition period scrubbing context).1)
        (fun context => !(scrubbing context.env).anyBusy)
        (fun _ => false)
        (PeriodicPowerCycle.condition period scrubbing before).2 := by
  constructor
  · intro before accepted
    apply Paced.of_stamped (Broadcast.idle_persists transmitter) trivial
      (Broadcast.stamp_of_accepted accepted)
    intro context stamp stamped
    simp only [Broadcast.follower] at stamped
    simp only [Broadcast.condition, stamped]
  · intro before unasked
    apply Paced.of_stamped (PeriodicPowerCycle.acts_persists period scrubbing power) rfl
    · simp [PeriodicPowerCycle.follower, PeriodicPowerCycle.condition, unasked]
    · intro context stamp stamped
      simp only [PeriodicPowerCycle.follower] at stamped
      simp only [PeriodicPowerCycle.condition, stamped, Option.getD_some, Bool.false_or,
        Bool.and_comm]

def Broadcast.silent : Context Broadcast (FrameLog PlannedTransmitter) :=
  { task := .start
    state := { SystemState.initial with time := .ofSeconds 1000, antenna := .all true }
    env := { devices := .idle, handed := [] } }

def Broadcast.aired : Context Broadcast (FrameLog PlannedTransmitter) :=
  Broadcast.execute PlannedTransmitter.unit.logged silent

namespace PeriodicPowerCycle

def dayPassed : Context PeriodicPowerCycle SimulatedEps →
    Bool × Context PeriodicPowerCycle SimulatedEps :=
  condition standardPeriod fun _ => .idle

def booted : Context PeriodicPowerCycle SimulatedEps :=
  (dayPassed { task := .start, state := .initial, env := .idle }).2

end PeriodicPowerCycle

/-- Time that was taken off is waited for again, and a day after a jump is a full day. -/
theorem paced_by_elapsed_time_jumped :
    (∃ later, AnyPassage Broadcast.follower (Broadcast.Idle PlannedTransmitter.unit)
        Broadcast.aired
        [.natural 200000000000, .explicit (.ofSeconds 100), .natural 150000000000] later ∧
      Broadcast.condition (.ofSeconds 300) later.task later.state = false) ∧
    ∃ later, AnyPassage PeriodicPowerCycle.follower
        (PeriodicPowerCycle.Acts PeriodicPowerCycle.standardPeriod (fun _ => .idle)
          SimulatedEps.unit)
        PeriodicPowerCycle.booted [.explicit (.ofSeconds 1000), .natural 86400000000000] later ∧
      (PeriodicPowerCycle.dayPassed later).1 = true := by
  obtain ⟨beacon, powerCycle⟩ := paced_by_elapsed_time (.ofSeconds 300)
    PeriodicPowerCycle.standardPeriod PlannedTransmitter.unit (fun _ : SimulatedEps => .idle)
    SimulatedEps.unit
  constructor
  · have accepted : Broadcast.aired.env.accepted ≠ Broadcast.silent.env.accepted := by decide
    have started : AnyPassage Broadcast.follower (Broadcast.Idle PlannedTransmitter.unit)
        Broadcast.aired [] Broadcast.aired := .start
    have later := started.elapse (.ofSeconds 1200) (by decide)
    have passage := (later.jump (.ofSeconds 100) trivial).elapse (.ofSeconds 250) (by decide)
    exact ⟨_, passage, (beacon Broadcast.silent accepted).answered _ _ passage⟩
  · have started : AnyPassage PeriodicPowerCycle.follower
        (PeriodicPowerCycle.Acts PeriodicPowerCycle.standardPeriod (fun _ => .idle)
          SimulatedEps.unit) PeriodicPowerCycle.booted [] PeriodicPowerCycle.booted := .start
    have passage := (started.jump (.ofSeconds 1000) trivial).elapse (.ofSeconds 87400) (by decide)
    exact ⟨_, passage, (powerCycle _ rfl).answered _ _ passage⟩

end Cubesat
