import Cubesat.Antenna.Deployment
import Cubesat.Proofs.Clock.Passage

/-!
When the deployment of the antennas is requested.

Beside the antenna unit a log is kept of its successful readouts and of the
requests that it got. The task counts what the log counts, and its deadline is
the natural time that is left since the last request. Each cycle makes a request
exactly when one is due.
-/

namespace Cubesat

universe u

/-- An antenna unit with a log of what it has shown and of how often it was asked to deploy. -/
structure AntennaLog (Devices : Type u) where
  devices : Devices
  /-- The successful readouts, latest first. -/
  readouts : List AntennaElements
  requests : Nat

def AntennaLog.latest {Devices : Type u} (log : AntennaLog Devices) : AntennaElements :=
  log.readouts.headD (.all false)

def AntennaUnit.logged {Devices : Type u} (antenna : AntennaUnit Devices) :
    AntennaUnit (AntennaLog Devices) where
  status log :=
    match antenna.status log.devices with
    | (.ok elements, devices) =>
        (.ok elements, { log with devices, readouts := elements :: log.readouts })
    | (.error error, devices) => (.error error, { log with devices })
  deploy log :=
    let done := antenna.deploy log.devices
    (done.1, { log with devices := done.2, requests := log.requests + 1 })

namespace Deployment

variable {Env Devices : Type u}

/-- The time before which no attempt is made, once there has been one. -/
def follower : TimeFollower Deployment where
  timeChanged := timeChanged
  stamp task := if 0 < task.attempts then some task.nextAttempt else none
  stamp_timeChanged jump task := by
    unfold timeChanged
    by_cases attempted : 0 < task.attempts
    · simp only [if_pos attempted, Option.map_some]
    · simp only [if_neg attempted, Option.map_none]

def cycle (plan : DeploymentPlan) (antenna : AntennaUnit Env) (context : Context Deployment Env) :
    Except Fault (Context Deployment Env) :=
  (action plan antenna).cycle (observation antenna) context

theorem cycle_eq (plan : DeploymentPlan) (antenna : AntennaUnit Env)
    (context : Context Deployment Env) :
    cycle plan antenna context =
      if condition plan (update antenna context).2.task (update antenna context).2.state then
        execute plan antenna (update antenna context).2
      else
        .ok (update antenna context).2 :=
  Action.cycle_ofPure _ _ _ _ _

theorem condition_iff {plan : DeploymentPlan} {task : Deployment} {state : SystemState} :
    condition plan task state = true ↔
      state.settings.antennaDisabled = false ∧ state.antenna.deployed = false ∧
        plan.silentPeriod ≤ state.time ∧ task.nextAttempt ≤ state.time ∧
        task.attempts < plan.maxAttempts.toNat := by
  simp [condition, and_assoc]

theorem countable {plan : DeploymentPlan} {task : Deployment} {state : SystemState}
    (due : condition plan task state = true) : task.attempts < 255 :=
  Nat.lt_of_lt_of_le (condition_iff.mp due).2.2.2.2 (Nat.le_of_lt_succ plan.maxAttempts.toNat_lt)

theorem execute_eq_ok_iff {plan : DeploymentPlan} {antenna : AntennaUnit Env}
    {before after : Context Deployment Env} (countable : before.task.attempts < 255) :
    execute plan antenna before = .ok after ↔
      ∃ nextAttempt, before.state.time.nanos + plan.retryInterval.nanos = nextAttempt.nanos ∧
        after = { before with
          task := { attempts := before.task.attempts + 1, nextAttempt }
          env := (antenna.deploy before.env).2 } := by
  rw [execute, if_neg (Nat.not_le.mpr countable)]
  cases deadline : before.state.time.addOrFault plan.retryInterval with
  | ok nextAttempt =>
      rw [Duration.addOrFault_eq_ok_iff] at deadline
      constructor
      · intro performed
        cases performed
        exact ⟨nextAttempt, deadline, rfl⟩
      · rintro ⟨other, same, rfl⟩
        rw [deadline] at same
        rw [Duration.ext same]
        rfl
  | error fault =>
      constructor
      · intro performed
        cases performed
      · rintro ⟨nextAttempt, same, -⟩
        rw [Duration.addOrFault_eq_ok_iff.mpr same] at deadline
        cases deadline

/-- A deadline beyond the longest duration is all that stops an attempt. -/
theorem execute_eq_error_iff {plan : DeploymentPlan} {antenna : AntennaUnit Env}
    {context : Context Deployment Env} {fault : Fault} (countable : context.task.attempts < 255) :
    execute plan antenna context = .error fault ↔
      fault = .durationOverflow ∧
        Duration.longest.nanos < context.state.time.nanos + plan.retryInterval.nanos := by
  rw [execute, if_neg (Nat.not_le.mpr countable), ← Duration.addOrFault_eq_error_iff]
  cases context.state.time.addOrFault plan.retryInterval with
  | ok nextAttempt => simp [Except.map]
  | error overflow => simp [Except.map]

structure Observed (antenna : AntennaUnit Devices)
    (before observed : Context Deployment (AntennaLog Devices)) : Prop where
  task : observed.task = before.task
  time : observed.state.time = before.state.time
  settings : observed.state.settings = before.state.settings
  requests : observed.env.requests = before.env.requests
  readouts : observed.env.readouts =
    (antenna.status before.env.devices).1.toOption.toList ++ before.env.readouts
  antenna : before.state.antenna = before.env.latest →
    observed.state.antenna = observed.env.latest

theorem update_observed (antenna : AntennaUnit Devices)
    (before : Context Deployment (AntennaLog Devices)) :
    Observed antenna before (update antenna.logged before).2 := by
  rcases answer : antenna.status before.env.devices with ⟨error | elements, devices⟩
  · have kept : (update antenna.logged before).2 =
        { before with env := { before.env with devices } } := by
      simp only [update, AntennaUnit.logged, answer]
    rw [kept]
    exact ⟨rfl, rfl, rfl, rfl, by rw [answer]; rfl, fun same => same⟩
  · have read : (update antenna.logged before).2 =
        { before with
          state := { before.state with antenna := elements }
          env := { before.env with devices, readouts := elements :: before.env.readouts } } := by
      simp only [update, AntennaUnit.logged, answer]
    rw [read]
    exact ⟨rfl, rfl, rfl, rfl, by rw [answer]; rfl, fun _ => rfl⟩

/-- A cycle decides on what it observes. -/
theorem cycle_cases {plan : DeploymentPlan} {antenna : AntennaUnit Devices}
    {before after : Context Deployment (AntennaLog Devices)}
    (ran : cycle plan antenna.logged before = .ok after) :
    ∃ observed, Observed antenna before observed ∧
      ((condition plan observed.task observed.state = false ∧ after = observed) ∨
        (condition plan observed.task observed.state = true ∧ ∃ nextAttempt,
          observed.state.time.nanos + plan.retryInterval.nanos = nextAttempt.nanos ∧
            after = { observed with
              task := { attempts := observed.task.attempts + 1, nextAttempt }
              env := (antenna.logged.deploy observed.env).2 })) := by
  refine ⟨_, update_observed antenna before, ?_⟩
  rw [cycle_eq] at ran
  by_cases due : condition plan (update antenna.logged before).2.task
      (update antenna.logged before).2.state = true
  · rw [if_pos due] at ran
    exact .inr ⟨due, (execute_eq_ok_iff (countable due)).mp ran⟩
  · rw [if_neg due] at ran
    cases ran
    exact .inl ⟨Bool.eq_false_iff.mpr due, rfl⟩

theorem cycle_overflow {plan : DeploymentPlan} {antenna : AntennaUnit Devices}
    {context : Context Deployment (AntennaLog Devices)} {fault : Fault}
    (stopped : cycle plan antenna.logged context = .error fault) :
    fault = .durationOverflow ∧
      Duration.longest.nanos < context.state.time.nanos + plan.retryInterval.nanos := by
  have time := (update_observed antenna context).time
  rw [cycle_eq] at stopped
  split at stopped
  case isTrue due =>
    rw [← time]
    exact (execute_eq_error_iff (countable due)).mp stopped
  case isFalse => cases stopped

/-- The task has counted the requests, within the plan, and the state shows the latest readout. -/
structure Accounted (plan : DeploymentPlan) (context : Context Deployment (AntennaLog Devices)) :
    Prop where
  attempts : context.task.attempts = context.env.requests
  planned : context.env.requests ≤ plan.maxAttempts.toNat
  antenna : context.state.antenna = context.env.latest
  ready : context.env.requests = 0 → context.task.nextAttempt = .zero

theorem Accounted.observed {plan : DeploymentPlan} {antenna : AntennaUnit Devices}
    {before observed : Context Deployment (AntennaLog Devices)}
    (accounted : Accounted plan before) (observation : Observed antenna before observed) :
    Accounted plan observed where
  attempts := by rw [observation.task, observation.requests, accounted.attempts]
  planned := by
    rw [observation.requests]
    exact accounted.planned
  antenna := observation.antenna accounted.antenna
  ready fresh := by
    rw [observation.task]
    exact accounted.ready (observation.requests ▸ fresh)

theorem Accounted.cycle {plan : DeploymentPlan} {antenna : AntennaUnit Devices}
    {before after : Context Deployment (AntennaLog Devices)} (accounted : Accounted plan before)
    (ran : Deployment.cycle plan antenna.logged before = .ok after) : Accounted plan after := by
  obtain ⟨observed, observation, ⟨-, rfl⟩ | ⟨due, nextAttempt, -, rfl⟩⟩ := cycle_cases ran
  · exact accounted.observed observation
  · have same := accounted.observed observation
    have room := (condition_iff.mp due).2.2.2.2
    rw [same.attempts] at room
    refine ⟨congrArg (· + 1) same.attempts, room, same.antenna, ?_⟩
    intro fresh
    exact absurd fresh (Nat.succ_ne_zero _)

theorem stamp_of_attempted {task : Deployment} (attempted : 0 < task.attempts) :
    follower.stamp task = some task.nextAttempt :=
  if_pos attempted

theorem requested_deadline {plan : DeploymentPlan} {antenna : AntennaUnit Devices}
    {before after : Context Deployment (AntennaLog Devices)}
    (ran : cycle plan antenna.logged before = .ok after)
    (requested : after.env.requests ≠ before.env.requests) :
    0 < after.task.attempts ∧
      after.state.time.nanos + plan.retryInterval.nanos = after.task.nextAttempt.nanos := by
  obtain ⟨observed, observation, ⟨-, rfl⟩ | ⟨-, nextAttempt, deadline, rfl⟩⟩ := cycle_cases ran
  · exact absurd observation.requests requested
  · exact ⟨Nat.succ_pos _, deadline⟩

/-- What may happen between two requests, apart from mission time going by. -/
inductive Quiet (plan : DeploymentPlan) (antenna : AntennaUnit Devices) :
    Context Deployment (AntennaLog Devices) → Context Deployment (AntennaLog Devices) → Prop
  | elsewhere (context : Context Deployment (AntennaLog Devices)) (state : SystemState)
      (devices : Devices) (time : state.time = context.state.time)
      (unread : state.antenna = context.state.antenna) :
      Quiet plan antenna context { context with state, env := { context.env with devices } }
  | cycle {before after : Context Deployment (AntennaLog Devices)}
      (ran : cycle plan antenna.logged before = .ok after)
      (unrequested : after.env.requests = before.env.requests) : Quiet plan antenna before after

theorem quiet_persists (plan : DeploymentPlan) (antenna : AntennaUnit Devices) (count : Nat) :
    Persists follower (Quiet plan antenna) fun context =>
      Accounted plan context ∧ context.env.requests = count where
  elapse _ _ running := ⟨⟨running.1.attempts, running.1.planned, running.1.antenna,
    running.1.ready⟩, running.2⟩
  jump context current running := by
    obtain ⟨accounted, counted⟩ := running
    by_cases attempted : 0 < context.task.attempts
    · have kept : (follower.jump current context).task.attempts = context.task.attempts := by
        simp only [TimeFollower.jump, follower, timeChanged, if_pos attempted]
      refine ⟨⟨kept.trans accounted.attempts, accounted.planned, accounted.antenna, ?_⟩, counted⟩
      intro fresh
      rw [accounted.attempts] at attempted
      exact absurd fresh (Nat.ne_of_gt attempted)
    · have kept : (follower.jump current context).task = context.task := by
        simp only [TimeFollower.jump, follower, timeChanged, if_neg attempted]
      exact ⟨⟨kept ▸ accounted.attempts, accounted.planned, accounted.antenna,
        fun fresh => kept ▸ accounted.ready fresh⟩, counted⟩
  act before after acted running := by
    obtain ⟨accounted, counted⟩ := running
    cases acted with
    | elsewhere state devices time unread =>
        exact ⟨⟨⟨accounted.attempts, accounted.planned, unread.trans accounted.antenna,
          accounted.ready⟩, counted⟩, time, rfl⟩
    | cycle ran unrequested =>
        refine ⟨⟨accounted.cycle ran, unrequested.trans counted⟩, ?_⟩
        obtain ⟨observed, observation, ⟨-, rfl⟩ | ⟨due, nextAttempt, -, rfl⟩⟩ := cycle_cases ran
        · exact ⟨observation.time, congrArg follower.stamp observation.task⟩
        · rw [← observation.requests] at unrequested
          exact absurd unrequested (Nat.succ_ne_self _)

/--
A run from a boot: stretches without a request between cycles that make one. It
goes with the movements of mission time since the last request, if there was one.
-/
inductive Ran (plan : DeploymentPlan) (antenna : AntennaUnit Devices) :
    Option (List TimeEvent) → Context Deployment (AntennaLog Devices) → Prop
  | boot {state : SystemState} {devices : Devices} (unread : state.antenna = .all false)
      {events : List TimeEvent} {context : Context Deployment (AntennaLog Devices)}
      (passage : Passage follower follower.Fits (Quiet plan antenna)
        { task := .start, state, env := { devices, readouts := [], requests := 0 } }
        events context) :
      Ran plan antenna none context
  | again {since : Option (List TimeEvent)}
      {before requested : Context Deployment (AntennaLog Devices)}
      (ran : Ran plan antenna since before)
      (asked : cycle plan antenna.logged before = .ok requested)
      (counted : requested.env.requests ≠ before.env.requests)
      {events : List TimeEvent} {context : Context Deployment (AntennaLog Devices)}
      (passage : Passage follower follower.Fits (Quiet plan antenna) requested events context) :
      Ran plan antenna (some events) context

namespace Ran

variable {plan : DeploymentPlan} {antenna : AntennaUnit Devices} {since : Option (List TimeEvent)}
  {context : Context Deployment (AntennaLog Devices)}

theorem accounted (ran : Ran plan antenna since context) : Accounted plan context := by
  induction ran with
  | boot unread passage =>
      exact (passage.keeps (quiet_persists plan antenna 0)
        ⟨⟨rfl, Nat.zero_le _, unread, fun _ => rfl⟩, rfl⟩).1
  | again ran asked counted passage inductionHypothesis =>
      exact (passage.keeps (quiet_persists plan antenna _)
        ⟨inductionHypothesis.cycle asked, rfl⟩).1

/-- The deadline is over once the interval has passed in natural time since the last request. -/
theorem nextAttempt_le_iff (ran : Ran plan antenna since context) :
    context.task.nextAttempt ≤ context.state.time ↔
      ∀ events, since = some events → plan.retryInterval.nanos ≤ naturalTime events := by
  cases ran with
  | boot unread passage =>
      obtain ⟨accounted, counted⟩ := passage.keeps (quiet_persists plan antenna 0)
        ⟨⟨rfl, Nat.zero_le _, unread, fun _ => rfl⟩, rfl⟩
      rw [accounted.ready counted]
      simp [Duration.le_iff, Duration.zero]
  | @again since before requested earlier asked counted events _ passage =>
      obtain ⟨attempted, deadline⟩ := requested_deadline asked counted
      have started := earlier.accounted.cycle asked
      have persists := quiet_persists plan antenna requested.env.requests
      obtain ⟨accounted, kept⟩ := passage.keeps persists ⟨started, rfl⟩
      obtain ⟨stamp, same, left⟩ :=
        passage.left persists ⟨started, rfl⟩ (stamp_of_attempted attempted)
      rw [started.attempts, ← kept, ← accounted.attempts] at attempted
      rw [stamp_of_attempted attempted, Option.some.injEq] at same
      rw [Duration.le_iff, same]
      simp only [Option.some.injEq, forall_eq']
      omega

end Ran

structure Due (plan : DeploymentPlan) (since : Option (List TimeEvent)) (requests : Nat)
    (state : SystemState) (shown : AntennaElements) : Prop where
  enabled : state.settings.antennaDisabled = false
  stowed : shown.deployed = false
  silent : plan.silentPeriod ≤ state.time
  planned : requests < plan.maxAttempts.toNat
  waited : ∀ events, since = some events → plan.retryInterval.nanos ≤ naturalTime events

theorem Ran.condition_iff_due {plan : DeploymentPlan} {antenna : AntennaUnit Devices}
    {since : Option (List TimeEvent)} {context observed : Context Deployment (AntennaLog Devices)}
    (ran : Ran plan antenna since context) (observation : Observed antenna context observed) :
    condition plan observed.task observed.state = true ↔
      Due plan since context.env.requests context.state observed.env.latest := by
  rw [condition_iff, observation.task, observation.time, observation.settings,
    observation.antenna ran.accounted.antenna, ran.nextAttempt_le_iff, ran.accounted.attempts]
  constructor
  · rintro ⟨enabled, stowed, silent, waited, planned⟩
    exact ⟨enabled, stowed, silent, planned, waited⟩
  · rintro ⟨enabled, stowed, silent, planned, waited⟩
    exact ⟨enabled, stowed, silent, waited, planned⟩

/--
The task counts the requests, of which there are no more than planned, and the
state shows the latest readout, also after readouts that fail. A cycle makes a
request exactly when one is due. Only a deadline beyond the longest duration
stops a cycle.
-/
theorem requests_when_due {plan : DeploymentPlan} {antenna : AntennaUnit Devices}
    {since : Option (List TimeEvent)} {context : Context Deployment (AntennaLog Devices)}
    (ran : Ran plan antenna since context) :
    context.task.attempts = context.env.requests ∧
    context.env.requests ≤ plan.maxAttempts.toNat ∧
    context.state.antenna = context.env.latest ∧
    (∀ fault, cycle plan antenna.logged context = .error fault →
      fault = .durationOverflow ∧
        Duration.longest.nanos < context.state.time.nanos + plan.retryInterval.nanos) ∧
    ∀ after, cycle plan antenna.logged context = .ok after →
      let answer := (antenna.status context.env.devices).1.toOption
      let due := Due plan since context.env.requests context.state after.env.latest
      after.env.readouts = answer.toList ++ context.env.readouts ∧
      (answer = none → after.state.antenna = context.state.antenna) ∧
      (due → after.env.requests = context.env.requests + 1) ∧
      (¬ due → after.env.requests = context.env.requests) := by
  have accounted := ran.accounted
  refine ⟨accounted.attempts, accounted.planned, accounted.antenna,
    fun fault => cycle_overflow, ?_⟩
  intro after cycled answer due
  have same := accounted.cycle cycled
  obtain ⟨observed, observation, decided⟩ := cycle_cases cycled
  have readouts : after.env.readouts = observed.env.readouts := by
    rcases decided with ⟨-, rfl⟩ | ⟨-, nextAttempt, -, rfl⟩
    · rfl
    · rfl
  have latest : after.env.latest = observed.env.latest := by
    rw [AntennaLog.latest, readouts, AntennaLog.latest]
  rw [observation.readouts] at readouts
  have decision := ran.condition_iff_due observation
  rw [← latest] at decision
  refine ⟨readouts, ?_, ?_, ?_⟩
  · intro failed
    have unread : after.env.readouts = context.env.readouts := by
      rw [readouts, show (antenna.status context.env.devices).1.toOption = none from failed,
        Option.toList_none, List.nil_append]
    rw [same.antenna, accounted.antenna, AntennaLog.latest, unread, AntennaLog.latest]
  · intro holds
    rcases decided with ⟨undue, -⟩ | ⟨-, nextAttempt, -, rfl⟩
    · rw [decision.mpr holds] at undue
      cases undue
    · exact congrArg (· + 1) observation.requests
  · intro fails
    rcases decided with ⟨-, rfl⟩ | ⟨holds, -⟩
    · exact observation.requests
    · exact absurd (decision.mp holds) fails

def twice : DeploymentPlan :=
  { silentPeriod := .ofSeconds 10, retryInterval := .ofSeconds 60, maxAttempts := 2 }

/-- A jammed antenna, after the silent period and with a readout that shows nothing out. -/
def jammed : Context Deployment (AntennaLog SimulatedAntenna) :=
  { task := .start
    state := { SystemState.initial with time := .ofSeconds 100 }
    env :=
      { devices := { SimulatedAntenna.stowed with jammed := true }
        readouts := []
        requests := 0 } }

def requestedOnce : Context Deployment (AntennaLog SimulatedAntenna) :=
  { jammed with
    task := { attempts := 1, nextAttempt := .ofSeconds 160 }
    env :=
      { devices := { SimulatedAntenna.stowed with jammed := true, deployRequests := 1 }
        readouts := [.all false]
        requests := 1 } }

/-- The clock has been set back, and then a minute has gone by. -/
def minuteLater : Context Deployment (AntennaLog SimulatedAntenna) :=
  { requestedOnce with
    task := { attempts := 1, nextAttempt := .ofSeconds 75 }
    state := { requestedOnce.state with time := .ofSeconds 75 } }

theorem ran_minuteLater :
    Ran twice SimulatedAntenna.unit (some [.explicit (.ofSeconds 15), .natural 60000000000])
      minuteLater := by
  have booted : Ran twice SimulatedAntenna.unit none jammed := .boot rfl .start
  have asked : cycle twice SimulatedAntenna.unit.logged jammed = .ok requestedOnce := rfl
  have back : Passage follower follower.Fits (Quiet twice SimulatedAntenna.unit) requestedOnce
      ([] ++ [.explicit (.ofSeconds 15)]) _ :=
    Passage.start.jump (.ofSeconds 15) (by
      intro stamp stamped
      cases stamped
      decide)
  exact booted.again asked (by decide) (back.elapse (.ofSeconds 75) (by decide))

/-- The second request is made after a minute of natural time. -/
theorem requests_when_due_setBack :
    Ran twice SimulatedAntenna.unit (some [.explicit (.ofSeconds 15), .natural 60000000000])
        minuteLater ∧
      ∃ after, cycle twice SimulatedAntenna.unit.logged minuteLater = .ok after ∧
        after.env.requests = 2 := by
  refine ⟨ran_minuteLater, _, rfl, ?_⟩
  obtain ⟨-, -, -, -, cycles⟩ := requests_when_due ran_minuteLater
  obtain ⟨readouts, -, due, -⟩ := cycles _ rfl
  apply due
  refine ⟨rfl, ?_, by decide, by decide, ?_⟩
  · rw [AntennaLog.latest, readouts]
    rfl
  · intro events same
    cases same
    decide

end Deployment

end Cubesat
