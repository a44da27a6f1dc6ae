import Cubesat.Proofs.Clock.Passage
import Cubesat.Proofs.Sail.Log

/-!
The delays of the sail opening, in natural time.

One call tries the steps that are left, one after the other, and stops at a step
that is refused or after one with a delay. From then on cycles try the next step
just when its delay of natural time has passed, whatever explicit changes of
mission time there are in between, and as long as it is refused.
-/

namespace Cubesat

universe u

namespace SailStep

/--
The steps that one call does and those that it tries, out of those that are
left, and the step that comes next with the delay that has to pass before it. A
step without a delay is followed by the next one in the same call.
-/
inductive Tried :
    List SailStep → List SailStep → List SailStep → Option (Duration × SailStep) → Prop
  | finished : Tried [] [] [] none
  | refused (next : SailStep) (later : List SailStep) :
      Tried (next :: later) [] [next] (some (.zero, next))
  | delayed {step : SailStep} (delayed : .zero < step.delayAfter) (next : SailStep)
      (later : List SailStep) :
      Tried (step :: next :: later) [step] [step] (some (step.delayAfter, next))
  | undelayed {step : SailStep} {left done tried : List SailStep}
      {wait : Option (Duration × SailStep)} (undelayed : step.delayAfter = .zero)
      (others : Tried left done tried wait) :
      Tried (step :: left) (step :: done) (step :: tried) wait

theorem getElem?_of_drop {count : Nat} {step : SailStep} {rest : List SailStep}
    (remaining : sequence.drop count = step :: rest) : sequence[count]? = some step := by
  rw [← List.head?_drop, remaining]
  rfl

theorem exists_next_of_delayed {count : Nat} {step : SailStep} {rest : List SailStep}
    (remaining : sequence.drop count = step :: rest) (delayed : .zero < step.delayAfter) :
    ∃ next later, rest = next :: later := by
  have table : ∀ count < 8, sequence.drop (count + 1) = [] →
      (sequence[count]?.map delayAfter) = some .zero := by
    decide
  cases rest with
  | cons next later => exact ⟨next, later, rfl⟩
  | nil =>
      have last := table count (lt_length_of_drop remaining) (drop_sequence_succ remaining)
      rw [getElem?_of_drop remaining] at last
      rw [Option.some.inj last] at delayed
      exact absurd delayed (Nat.lt_irrefl _)

end SailStep

namespace SailOpening

variable {Env Devices : Type u}

def follower : TimeFollower SailOpening where
  timeChanged := timeChanged
  stamp task := if task.inProgress then some task.nextStep else none
  stamp_timeChanged jump task := by
    unfold timeChanged
    cases running : task.inProgress with
    | false => simp [running]
    | true => simp

def cycle (power : PowerUnit Env) (autoOpen : Option Duration) (context : Context SailOpening Env) :
    Except Fault (Context SailOpening Env) :=
  (action power).cycle (observation autoOpen) context

theorem cycle_eq (power : PowerUnit Env) (autoOpen : Option Duration)
    (context : Context SailOpening Env) :
    cycle power autoOpen context =
      if condition (update autoOpen context).2.task (update autoOpen context).2.state then
        execute power (update autoOpen context).2
      else
        .ok (update autoOpen context).2 :=
  Action.cycle_ofPure _ _ _ _ _

theorem update_env (autoOpen : Option Duration) (context : Context SailOpening Env) :
    (update autoOpen context).2.env = context.env := rfl

/--
The delay that a call comes to: that of the first step that has one, if the
devices accept the steps up to it.
-/
def delayAhead? (power : PowerUnit Env) : List SailStep → Env → Option Duration
  | [], _ => none
  | step :: rest, env =>
      match power.operate step.operation env with
      | (.error _, _) => none
      | (.ok (), env) =>
          if .zero < step.delayAfter then some step.delayAfter else delayAhead? power rest env

theorem exists_step_of_delayAhead? {power : PowerUnit Env} {steps : List SailStep} {env : Env}
    {delay : Duration} (ahead : delayAhead? power steps env = some delay) :
    ∃ step ∈ steps, step.delayAfter = delay := by
  induction steps generalizing env with
  | nil => cases ahead
  | cons step rest inductionHypothesis =>
      unfold delayAhead? at ahead
      split at ahead
      · cases ahead
      · split at ahead
        · cases ahead
          exact ⟨step, List.mem_cons_self, rfl⟩
        · obtain ⟨later, membership, same⟩ := inductionHypothesis ahead
          exact ⟨later, List.mem_cons_of_mem _ membership, same⟩

/-- A deadline beyond the longest duration is all that stops a call. -/
theorem perform_eq_error_iff {power : PowerUnit Env} {steps : List SailStep}
    {context : Context SailOpening Env} {fault : Fault} :
    perform power steps context = .error fault ↔
      fault = .durationOverflow ∧ ∃ delay, delayAhead? power steps context.env = some delay ∧
        Duration.longest.nanos < context.state.time.nanos + delay.nanos := by
  induction steps generalizing context with
  | nil => simp [perform, delayAhead?]
  | cons step rest inductionHypothesis =>
      rcases answered : power.operate step.operation context.env with ⟨error | _, env⟩
      · simp [perform, delayAhead?, answered]
      · by_cases delayed : .zero < step.delayAfter
        · simp only [perform, delayAhead?, answered, if_pos delayed, Option.some.injEq,
            exists_eq_left', ← Duration.addOrFault_eq_error_iff]
          cases context.state.time.addOrFault step.delayAfter with
          | ok nextStep => simp [Except.map]
          | error overflow => simp [Except.map]
        · simp only [perform, delayAhead?, answered, if_neg delayed]
          exact inductionHypothesis

theorem cycle_overflow {power : PowerUnit Env} {autoOpen : Option Duration}
    {context : Context SailOpening Env} {fault : Fault}
    (stopped : cycle power autoOpen context = .error fault) :
    ∃ step ∈ SailStep.sequence,
      Duration.longest.nanos < context.state.time.nanos + step.delayAfter.nanos := by
  rw [cycle_eq] at stopped
  split at stopped
  · obtain ⟨-, delay, ahead, beyond⟩ := perform_eq_error_iff.mp stopped
    obtain ⟨step, membership, rfl⟩ := exists_step_of_delayAhead? ahead
    rw [update_time] at beyond
    exact ⟨step, List.mem_of_mem_drop membership, beyond⟩
  · cases stopped

/-- A sequence in progress has come to a step, with some time left until this is tried. -/
structure Waiting (delay : Duration) (next : SailStep) (context : Context SailOpening Env) :
    Prop where
  running : context.task.inProgress = true
  next : SailStep.sequence[context.task.step]? = some next
  left : context.task.nextStep.nanos - context.state.time.nanos = delay.nanos

theorem perform_tried {power : PowerUnit Devices} {steps : List SailStep}
    {before after : Context SailOpening (Recorded Devices)}
    (running : before.task.inProgress = true)
    (remaining : SailStep.sequence.drop before.task.step = steps)
    (due : before.task.nextStep ≤ before.state.time)
    (performed : perform power.recording steps before = .ok after) :
    ∃ done tried wait, SailStep.Tried steps done tried wait ∧
      after.env.accepted = before.env.accepted ++ done.map SailStep.operation ∧
      after.env.asked = before.env.asked ++ tried.map SailStep.operation ∧
      ∀ delay next, wait = some (delay, next) → Waiting delay next after := by
  induction steps generalizing before with
  | nil =>
      cases performed
      refine ⟨[], [], none, .finished, ?_, ?_, ?_⟩
      · rw [finishIfDone_env, List.map_nil, List.append_nil]
      · rw [finishIfDone_env, List.map_nil, List.append_nil]
      · intro delay next contrary
        cases contrary
  | cons step rest inductionHypothesis =>
      have left := SailStep.drop_sequence_succ remaining
      rcases perform_cons_cases performed with ⟨error, env, refused, rfl⟩ |
        ⟨nextStep, env, answered, delayed, deadline, rfl⟩ | ⟨env, answered, undelayed, remainder⟩
      · obtain ⟨asked, accepted⟩ := PowerUnit.recording_of_error refused
        refine ⟨[], [step], some (.zero, step), .refused step rest, ?_, asked, ?_⟩
        · rw [accepted, List.map_nil, List.append_nil]
        · intro delay next same
          cases same
          exact ⟨running, SailStep.getElem?_of_drop remaining, Nat.sub_eq_zero_of_le due⟩
      · obtain ⟨asked, accepted⟩ := PowerUnit.recording_of_ok answered
        obtain ⟨next, later, rfl⟩ := SailStep.exists_next_of_delayed remaining delayed
        have inside := SailStep.lt_length_of_drop left
        rcases finishIfDone_cases
          { before with task := { before.task with step := before.task.step + 1, nextStep }, env }
          with same | ⟨finished, -⟩
        · rw [same]
          refine ⟨[step], [step], _, .delayed delayed next later, accepted, asked, ?_⟩
          intro delay other same
          cases same
          refine ⟨running, SailStep.getElem?_of_drop left, ?_⟩
          have parts := Duration.addOrFault_eq_ok_iff.mp deadline
          dsimp only
          omega
        · exact absurd inside (Nat.not_lt.mpr finished)
      · obtain ⟨asked, accepted⟩ := PowerUnit.recording_of_ok answered
        have immediate : step.delayAfter = .zero :=
          Duration.ext (Nat.eq_zero_of_not_pos undelayed)
        obtain ⟨done, tried, wait, course, acceptedLater, askedLater, waiting⟩ :=
          @inductionHypothesis
            { before with task := { before.task with step := before.task.step + 1 }, env }
            running left due remainder
        refine ⟨step :: done, step :: tried, wait, .undelayed immediate course, ?_, ?_, waiting⟩
        · rw [acceptedLater, accepted, List.append_assoc]
          rfl
        · rw [askedLater, asked, List.append_assoc]
          rfl

/-- What may happen as long as no operation is accepted, apart from mission time going by. -/
inductive Idle (power : PowerUnit Devices) (autoOpen : Option Duration) :
    Context SailOpening (Recorded Devices) → Context SailOpening (Recorded Devices) → Prop
  | request (context : Context SailOpening (Recorded Devices)) :
      Idle power autoOpen context { context with task := context.task.requestOpen.2 }
  | elsewhere (context : Context SailOpening (Recorded Devices)) (state : SystemState)
      (devices : Devices) (time : state.time = context.state.time) :
      Idle power autoOpen context { context with state, env := { context.env with devices } }
  | cycle {before after : Context SailOpening (Recorded Devices)}
      (ran : cycle power.recording autoOpen before = .ok after)
      (unaccepted : after.env.accepted = before.env.accepted) : Idle power autoOpen before after

/--
Until another operation is accepted, a cycle tries the step, ahead of any other,
if the delay has passed in natural time, and no step at all if it has not.
-/
def Awaits (power : PowerUnit Devices) (autoOpen : Option Duration) (delay : Duration)
    (next : SailStep) (start : Context SailOpening (Recorded Devices)) : Prop :=
  ∀ events context,
    Passage follower follower.Fits (Idle power autoOpen) start events context →
      ∀ after, cycle power.recording autoOpen context = .ok after →
        (delay.nanos ≤ naturalTime events →
          ∃ issued, after.env.asked = context.env.asked ++ next.operation :: issued) ∧
        (naturalTime events < delay.nanos → after.env.asked = context.env.asked)

/-- A cycle in which nothing is accepted leaves a sequence in progress as it is. -/
theorem cycle_unaccepted {power : PowerUnit Devices} {autoOpen : Option Duration}
    {before after : Context SailOpening (Recorded Devices)}
    (running : before.task.inProgress = true)
    (ran : cycle power.recording autoOpen before = .ok after)
    (unaccepted : after.env.accepted = before.env.accepted) :
    after.task = { before.task with requested := false } ∧
      after.state.time = before.state.time := by
  have task := update_task autoOpen running
  have time := update_time autoOpen before
  have env := update_env autoOpen before
  rw [cycle_eq] at ran
  generalize (update autoOpen before).2 = observed at ran task time env
  rw [← task, ← time]
  rw [← env] at unaccepted
  by_cases due : condition observed.task observed.state = true
  · obtain ⟨running, reached, inside⟩ := condition_iff.mp due
    have parts := List.drop_eq_getElem_cons inside
    rw [if_pos due, execute, parts] at ran
    rcases perform_cons_cases ran with ⟨error, later, -, rfl⟩ |
      ⟨nextStep, later, answered, -, -, rfl⟩ | ⟨later, answered, -, remainder⟩
    · exact ⟨rfl, rfl⟩
    · rw [finishIfDone_env, (PowerUnit.recording_of_ok answered).2] at unaccepted
      simp at unaccepted
    · obtain ⟨done, -, -, -, accepted, -⟩ := @perform_tried _ power _
        { observed with
          task := { observed.task with step := observed.task.step + 1 }
          env := later }
        _ running (SailStep.drop_sequence_succ parts) reached remainder
      rw [accepted, (PowerUnit.recording_of_ok answered).2] at unaccepted
      simp at unaccepted
  · rw [if_neg due] at ran
    cases ran
    exact ⟨rfl, rfl⟩

theorem idle_persists (power : PowerUnit Devices) (autoOpen : Option Duration) (next : SailStep) :
    Persists follower (Idle power autoOpen) fun context =>
      context.task.inProgress = true ∧ SailStep.sequence[context.task.step]? = some next where
  elapse _ _ waiting := waiting
  jump context current waiting := by
    obtain ⟨running, current⟩ := waiting
    simp only [TimeFollower.jump, follower, timeChanged, running, if_true]
    exact ⟨trivial, current⟩
  act before after acted waiting := by
    cases acted with
    | request => exact ⟨waiting, rfl, rfl⟩
    | elsewhere state devices time => exact ⟨waiting, time, rfl⟩
    | cycle ran unaccepted =>
        obtain ⟨task, time⟩ := cycle_unaccepted waiting.1 ran unaccepted
        rw [task]
        exact ⟨waiting, time, rfl⟩

theorem Waiting.awaits {power : PowerUnit Devices} {autoOpen : Option Duration} {delay : Duration}
    {next : SailStep} {start : Context SailOpening (Recorded Devices)}
    (waiting : Waiting delay next start) : Awaits power autoOpen delay next start := by
  intro events context passage after ran
  have persists := idle_persists power autoOpen next
  obtain ⟨running, current⟩ := passage.keeps persists ⟨waiting.running, waiting.next⟩
  have stamped : follower.stamp start.task = some start.task.nextStep := by
    simp [follower, waiting.running]
  obtain ⟨stamp, kept, left⟩ := passage.left persists ⟨waiting.running, waiting.next⟩ stamped
  simp only [follower, running, if_true, Option.some.injEq] at kept
  rw [waiting.left, ← kept] at left
  have task := update_task autoOpen running
  have time := update_time autoOpen context
  have env := update_env autoOpen context
  rw [cycle_eq] at ran
  generalize (update autoOpen context).2 = observed at ran task time env
  have inside := (List.getElem?_eq_some_iff.mp current).1
  have due : condition observed.task observed.state = true ↔ delay.nanos ≤ naturalTime events := by
    rw [condition_iff, task, time, Duration.le_iff]
    simp only [running, inside, true_and, and_true]
    omega
  constructor
  · intro passed
    rw [if_pos (due.mpr passed)] at ran
    obtain ⟨operation, issued, same, asked, -⟩ :=
      execute_asked (step_lt_of_condition (due.mpr passed)) ran
    rw [task, SailStep.operations, List.getElem?_map, current] at same
    cases same
    exact ⟨issued, env ▸ asked⟩
  · intro early
    rw [if_neg (fun holds => absurd (due.mp holds) (Nat.not_le.mpr early))] at ran
    cases ran
    rw [env]

/--
A call does the steps up to one that is refused or that has a delay. The step
that comes next is tried first in the first cycle by which its delay has passed
in natural time, and again in every cycle until it is accepted; nothing is tried
before. Only a deadline beyond the longest duration stops a cycle.
-/
theorem tries_after_delay (power : PowerUnit Devices) (autoOpen : Option Duration)
    (before : Context SailOpening (Recorded Devices)) :
    (∀ fault, cycle power.recording autoOpen before = .error fault →
      ∃ step ∈ SailStep.sequence,
        Duration.longest.nanos < before.state.time.nanos + step.delayAfter.nanos) ∧
    ∀ after, cycle power.recording autoOpen before = .ok after →
      let observed := (update autoOpen before).2
      (condition observed.task observed.state = false → after.env = before.env) ∧
      (condition observed.task observed.state = true →
        ∃ done tried wait,
          SailStep.Tried (SailStep.sequence.drop observed.task.step) done tried wait ∧
          after.env.accepted = before.env.accepted ++ done.map SailStep.operation ∧
          after.env.asked = before.env.asked ++ tried.map SailStep.operation ∧
          ∀ delay next, wait = some (delay, next) →
            Awaits power autoOpen delay next after) := by
  refine ⟨fun fault => cycle_overflow, ?_⟩
  intro after ran observed
  rw [cycle_eq] at ran
  constructor
  · intro idle
    rw [if_neg (Bool.not_eq_true _ ▸ idle)] at ran
    cases ran
    exact update_env autoOpen before
  · intro due
    rw [if_pos due] at ran
    obtain ⟨running, reached, -⟩ := condition_iff.mp due
    obtain ⟨done, tried, wait, course, accepted, asked, waiting⟩ :=
      perform_tried running rfl reached ran
    rw [update_env] at accepted asked
    exact ⟨done, tried, wait, course, accepted, asked,
      fun delay next same => (waiting delay next same).awaits⟩

def settled : Context SailOpening (Recorded SimulatedEps) :=
  { begun with state := { begun.state with time := .ofSeconds 2 } }

def burning : Context SailOpening (Recorded SimulatedEps) :=
  { settled with
    task := { settled.task with step := 2, nextStep := .ofSeconds 122 }
    env :=
      { devices :=
          { SimulatedEps.idle with
            operations := [⟨.thermalKnife .main, true⟩, ⟨.burnSwitch .main, true⟩] }
        asked := [⟨.thermalKnife .main, true⟩, ⟨.burnSwitch .main, true⟩]
        accepted := [⟨.thermalKnife .main, true⟩, ⟨.burnSwitch .main, true⟩] } }

/-- The burn with the clock set back by a minute after half of it. -/
def setBack : Context SailOpening (Recorded SimulatedEps) :=
  { burning with
    task := { burning.task with nextStep := .ofSeconds 61 }
    state := { burning.state with time := .ofSeconds 61 } }

theorem passage_setBack :
    Passage follower follower.Fits (Idle SimulatedEps.unit none) burning
      [.natural 60000000000, .explicit (.ofSeconds 1), .natural 60000000000] setBack := by
  have ready : Passage follower follower.Fits (Idle SimulatedEps.unit none) burning [] burning :=
    .start
  have halfway := ready.elapse (.ofSeconds 62) (by decide)
  have back := halfway.jump (.ofSeconds 1) (by
    intro stamp stamped
    cases stamped
    decide)
  exact back.elapse (.ofSeconds 61) (by decide)

/-- The burn ends after two minutes of natural time. -/
theorem tries_after_delay_setBack :
    cycle SimulatedEps.unit.recording none settled = .ok burning ∧
      condition (update none settled).2.task (update none settled).2.state = true ∧
      ∃ after, cycle SimulatedEps.unit.recording none setBack = .ok after ∧
        ∃ issued, after.env.asked = setBack.env.asked ++ ⟨.burnSwitch .main, false⟩ :: issued := by
  have ran : cycle SimulatedEps.unit.recording none settled = .ok burning := rfl
  refine ⟨ran, by decide, _, rfl, ?_⟩
  obtain ⟨done, tried, wait, course, accepted, -, awaits⟩ :=
    ((tries_after_delay SimulatedEps.unit none settled).2 burning ran).2 (by decide)
  cases course with
  | refused next later => cases accepted
  | delayed delayed next later =>
      exact (awaits _ _ rfl _ _ passage_setBack _ rfl).1 (by decide)
  | undelayed undelayed others => exact absurd undelayed (by decide)

end SailOpening

end Cubesat
