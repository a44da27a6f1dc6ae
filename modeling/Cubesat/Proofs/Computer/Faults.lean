import Cubesat.Proofs.Antenna.Attempts
import Cubesat.Proofs.Computer.Consistency
import Cubesat.Proofs.Sail.Delays

/-!
What stops a flight computer in the middle of a cycle.

Two tasks count, and neither comes near the end of its counter. Two tasks set
deadlines, and these may lie beyond the longest duration: mission time can be
set close to it, and a configuration may ask for any interval. This is all that
stops a cycle, and there is an exact account of when it does.
-/

namespace Cubesat

universe u

variable {Env : Type u} {hardware : Hardware Env} {config : MissionConfig}

def Action.Returns {State : Type u} (action : Action State) : Prop :=
  ∀ before, ∃ after, action.execute before = .ok after

namespace Action

variable {State : Type u}

theorem Returns.through {Part : Type u} {lens : Lens State Part} {action : Action Part}
    (returns : action.Returns) : (action.through lens).Returns := by
  intro before
  obtain ⟨after, executed⟩ := returns (lens.get before)
  exact ⟨lens.set after before, through_execute_eq_ok_iff.mpr ⟨after, executed, rfl⟩⟩

theorem ofPure_returns {name : String} {condition : State → Bool} {work : State → State} :
    (ofPure name condition fun state => .ok (work state)).Returns :=
  fun before => ⟨work before, rfl⟩

theorem Returns.runIfRunnable {action : Action State} (returns : action.Returns) (before : State) :
    ∃ after, action.runIfRunnable before = .ok after := by
  unfold Action.runIfRunnable
  dsimp only
  split
  · exact returns _
  · exact ⟨_, rfl⟩

theorem composite_returns {name : String} {members : List (Action State)}
    (returns : ∀ member ∈ members, member.Returns) : (composite name members).Returns := by
  intro before
  change ∃ after, runEach members before = .ok after
  induction members generalizing before with
  | nil => exact ⟨before, rfl⟩
  | cons member rest inductionHypothesis =>
      obtain ⟨middle, first⟩ := (returns member List.mem_cons_self).runIfRunnable before
      obtain ⟨after, others⟩ := inductionHypothesis
        (fun other membership => returns other (List.mem_cons_of_mem _ membership)) middle
      refine ⟨after, ?_⟩
      rw [runEach, List.foldlM_cons, first]
      exact others

end Action

theorem Detumbling.action_returns (window : DetumblingWindow) (adcs : AdcsUnit Env) :
    (action window adcs).Returns := by
  apply Action.composite_returns
  intro member membership
  simp only [List.mem_cons, List.not_mem_nil, or_false] at membership
  rcases membership with rfl | rfl
  · exact Action.ofPure_returns
  · exact Action.ofPure_returns

namespace Computer

def deploymentAction (hardware : Hardware Env) (config : MissionConfig) : Action (Computer Env) :=
  (Deployment.action config.deployment hardware.antenna).through deploymentPart

def openingAction (hardware : Hardware Env) : Action (Computer Env) :=
  (SailOpening.action hardware.power).through sailPart

variable (hardware config) in
theorem actions_return (limit : ErrorLimit) (action : Action (Computer Env))
    (membership : action ∈ (schedule hardware config limit).actions) :
    action = deploymentAction hardware config ∨ action = openingAction hardware ∨
      action.Returns := by
  simp only [schedule, List.mem_cons, List.not_mem_nil, or_false] at membership
  rcases membership with rfl | rfl | rfl | rfl | rfl | rfl
  · exact .inl rfl
  · exact .inr (.inr (Detumbling.action_returns _ _).through)
  · exact .inr (.inl rfl)
  · exact .inr (.inr Action.ofPure_returns.through)
  · exact .inr (.inr (Action.Returns.through fun before => ⟨_, rfl⟩))
  · exact .inr (.inr Action.ofPure_returns.through)

structure Unopened (before after : Computer Env) : Prop where
  sail : after.sail = before.sail
  state : after.state = before.state

instance : IsPreorder (Computer Env) Unopened where
  refl _ := ⟨rfl, rfl⟩
  trans _ _ _ early late := ⟨late.sail.trans early.sail, late.state.trans early.state⟩

/-- All that the tasks with deadlines decide on has stayed as it was. -/
structure Undecided (before after : Computer Env) : Prop extends Unopened before after where
  deployment : after.deployment = before.deployment

instance : IsPreorder (Computer Env) Undecided where
  refl _ := ⟨⟨rfl, rfl⟩, rfl⟩
  trans _ _ _ early late :=
    ⟨IsTrans.trans _ _ _ early.toUnopened late.toUnopened,
      late.deployment.trans early.deployment⟩

variable (hardware config) in
/-- Nothing is decided by asking for a condition. -/
theorem conditions_undecided (limit : ErrorLimit) (action : Action (Computer Env))
    (membership : action ∈ (schedule hardware config limit).actions) (computer : Computer Env) :
    Undecided computer (action.condition computer).2 := by
  simp only [schedule, List.mem_cons, List.not_mem_nil, or_false] at membership
  rcases membership with rfl | rfl | rfl | rfl | rfl | rfl
  · exact ⟨⟨rfl, rfl⟩, rfl⟩
  · exact (Action.through_respects (fun _ _ same => ⟨⟨rfl, same⟩, rfl⟩)
      (Detumbling.action_sameState config.detumbling hardware.adcs)).condition computer
  · exact ⟨⟨rfl, rfl⟩, rfl⟩
  · exact ⟨⟨rfl, rfl⟩, rfl⟩
  · exact ⟨⟨rfl, rfl⟩, rfl⟩
  · exact ⟨⟨rfl, rfl⟩, rfl⟩

theorem selected_undecided (hardware : Hardware Env) (config : MissionConfig)
    (computer : Computer Env) :
    Undecided (computer.checked hardware config)
      (Schedule.selectRunnable (schedule hardware config computer.errorLimit).actions
        (computer.checked hardware config)).2 :=
  Schedule.selectRunnable_along (conditions_undecided hardware config computer.errorLimit) _

/-- The attempt that the next cycle comes to, if there is one, is decided on what was checked. -/
theorem turn_of_deployment {computer before : Computer Env}
    (turn : (schedule hardware config computer.errorLimit).Turn
      { computer with cycleCount := computer.cycleCount + 1 } (deploymentAction hardware config)
      before) :
    Deployment.condition config.deployment (computer.checked hardware config).deployment
        (computer.checked hardware config).state = true ∧
      Undecided (computer.checked hardware config) before := by
  have behind : (deploymentAction hardware config).name ∉
      ((schedule hardware config computer.errorLimit).actions.drop 1).map Action.name := by
    simp [schedule, deploymentAction, Action.through, Deployment.action, Detumbling.action,
      SailOpening.action, Broadcast.action, PeriodicPowerCycle.action, StorageUnit.saveAction,
      Action.ofPure, Action.composite]
  have parts : (schedule hardware config computer.errorLimit).actions =
      [] ++ deploymentAction hardware config ::
        (schedule hardware config computer.errorLimit).actions.drop 1 := rfl
  obtain ⟨ahead, nothing, executed⟩ := turn.reached parts
    fun membership => behind (List.mem_map_of_mem membership)
  obtain ⟨earlier, later, selected, -⟩ := turn
  constructor
  · apply (@Schedule.name_mem_selectRunnable_iff _ [] _ _ List.not_mem_nil behind
      (computer.checked hardware config)).mp
    have among : deploymentAction hardware config ∈ (Schedule.selectRunnable
        (schedule hardware config computer.errorLimit).actions
        (computer.checked hardware config)).1 := by
      unfold checked
      rw [selected]
      exact List.mem_append_right _ List.mem_cons_self
    exact List.mem_map_of_mem among
  · rw [List.sublist_nil.mp nothing] at executed
    cases executed
    exact selected_undecided hardware config computer

/-- Ahead of the opening the antennas and the attitude have their turn, and leave it alone. -/
theorem turn_of_opening {computer before : Computer Env}
    (turn : (schedule hardware config computer.errorLimit).Turn
      { computer with cycleCount := computer.cycleCount + 1 } (openingAction hardware) before) :
    Unopened (computer.checked hardware config) before := by
  have behind : (openingAction hardware).name ∉
      ((schedule hardware config computer.errorLimit).actions.drop 3).map Action.name := by
    simp [schedule, openingAction, Action.through, SailOpening.action, Broadcast.action,
      PeriodicPowerCycle.action, StorageUnit.saveAction, Action.ofPure]
  have parts : (schedule hardware config computer.errorLimit).actions =
      (schedule hardware config computer.errorLimit).actions.take 2 ++ openingAction hardware ::
        (schedule hardware config computer.errorLimit).actions.drop 3 := rfl
  obtain ⟨ahead, inFront, executed⟩ := turn.reached parts
    fun membership => behind (List.mem_map_of_mem membership)
  have asked := selected_undecided hardware config computer
  refine IsTrans.trans _ _ _ asked.toUnopened (Schedule.executeAll_along ?_ executed)
  intro action membership
  have listed := inFront.subset membership
  simp only [schedule, List.take_succ_cons, List.take_zero, List.mem_cons, List.not_mem_nil,
    or_false] at listed
  rcases listed with rfl | rfl
  · exact (Action.through_respects (fun _ _ same => ⟨rfl, same⟩)
      (Deployment.action_sameState config.deployment hardware.antenna)).execute
  · exact (Action.through_respects (fun _ _ same => ⟨rfl, same⟩)
      (Detumbling.action_sameState config.detumbling hardware.adcs)).execute

/--
An attempt to deploy the antennas or a step of the opening has its turn in the
next cycle, and the deadline that it sets lies beyond the longest duration.
-/
inductive Overruns (hardware : Hardware Env) (config : MissionConfig) (computer : Computer Env) :
    Prop
  | attempt
      (due : Deployment.condition config.deployment (computer.checked hardware config).deployment
        (computer.checked hardware config).state = true)
      (beyond : Duration.longest.nanos <
        (computer.checked hardware config).state.time.nanos +
          config.deployment.retryInterval.nanos) :
      Overruns hardware config computer
  | step {before : Computer Env} {delay : Duration}
      (turn : (schedule hardware config computer.errorLimit).Turn
        { computer with cycleCount := computer.cycleCount + 1 } (openingAction hardware) before)
      (accepted : SailOpening.delayAhead? hardware.power
        (SailStep.sequence.drop (computer.checked hardware config).sail.step) before.env =
          some delay)
      (beyond : Duration.longest.nanos <
        (computer.checked hardware config).state.time.nanos + delay.nanos) :
      Overruns hardware config computer

variable {computer : Computer Env} {fault : Fault}

theorem runCycle_eq_error_iff :
    computer.runCycle hardware config = .error fault ↔
      ∃ action before, (schedule hardware config computer.errorLimit).Turn
          { computer with cycleCount := computer.cycleCount + 1 } action before ∧
        action.execute before = .error fault := by
  have stopped := @Schedule.runCycle_eq_error_iff _
    (schedule hardware config computer.errorLimit) (computer.cycleCount + 1)
    { computer with cycleCount := computer.cycleCount + 1 } fault
  rw [← stopped]
  unfold runCycle
  dsimp only
  cases (schedule hardware config computer.errorLimit).runCycle (computer.cycleCount + 1)
    { computer with cycleCount := computer.cycleCount + 1 } with
  | error stopped => simp [Except.map]
  | ok done => simp [Except.map]

theorem deployment_execute_eq_error_iff {before : Computer Env}
    (due : Deployment.condition config.deployment (computer.checked hardware config).deployment
      (computer.checked hardware config).state = true)
    (undecided : Undecided (computer.checked hardware config) before) :
    (deploymentAction hardware config).execute before = .error fault ↔
      fault = .durationOverflow ∧ Duration.longest.nanos <
        (computer.checked hardware config).state.time.nanos +
          config.deployment.retryInterval.nanos := by
  have countable : (deploymentPart.get before).task.attempts < 255 := by
    have attempts := Deployment.countable due
    rwa [← undecided.deployment] at attempts
  rw [← undecided.state]
  exact Action.through_execute_eq_error_iff.trans (Deployment.execute_eq_error_iff countable)

theorem opening_execute_eq_error_iff {before : Computer Env}
    (unopened : Unopened (computer.checked hardware config) before) :
    (openingAction hardware).execute before = .error fault ↔
      fault = .durationOverflow ∧ ∃ delay,
        SailOpening.delayAhead? hardware.power
          (SailStep.sequence.drop (computer.checked hardware config).sail.step) before.env =
            some delay ∧
        Duration.longest.nanos <
          (computer.checked hardware config).state.time.nanos + delay.nanos := by
  rw [← unopened.sail, ← unopened.state]
  exact Action.through_execute_eq_error_iff.trans SailOpening.perform_eq_error_iff

theorem runCycle_stops_iff :
    computer.runCycle hardware config = .error fault ↔
      fault = .durationOverflow ∧ computer.Overruns hardware config := by
  rw [runCycle_eq_error_iff]
  constructor
  · rintro ⟨action, before, turn, failed⟩
    rcases actions_return hardware config computer.errorLimit action turn.mem with
      rfl | rfl | returns
    · obtain ⟨due, undecided⟩ := turn_of_deployment turn
      obtain ⟨same, beyond⟩ := (deployment_execute_eq_error_iff due undecided).mp failed
      exact ⟨same, .attempt due beyond⟩
    · obtain ⟨same, delay, accepted, beyond⟩ :=
        (opening_execute_eq_error_iff (turn_of_opening turn)).mp failed
      exact ⟨same, .step turn accepted beyond⟩
    · obtain ⟨after, executed⟩ := returns before
      rw [executed] at failed
      cases failed
  · rintro ⟨rfl, overruns⟩
    cases overruns with
    | attempt due beyond =>
        have undecided := selected_undecided hardware config computer
        exact ⟨_, _, Schedule.turn_of_first rfl due,
          (deployment_execute_eq_error_iff due undecided).mpr ⟨rfl, beyond⟩⟩
    | step turn accepted beyond =>
        exact ⟨_, _, turn, (opening_execute_eq_error_iff (turn_of_opening turn)).mpr
          ⟨rfl, _, accepted, beyond⟩⟩

theorem runCycle_returns
    (attempt : (computer.checked hardware config).state.time.nanos +
      config.deployment.retryInterval.nanos ≤ Duration.longest.nanos)
    (burn : (computer.checked hardware config).state.time.nanos + SailStep.burnTime.nanos ≤
      Duration.longest.nanos) :
    ∃ report after, computer.runCycle hardware config = .ok (report, after) := by
  rcases ran : computer.runCycle hardware config with fault | ⟨report, after⟩
  · obtain ⟨-, overruns⟩ := runCycle_stops_iff.mp ran
    cases overruns with
    | attempt due beyond => exact absurd attempt (Nat.not_le.mpr beyond)
    | step turn accepted beyond =>
        obtain ⟨step, membership, rfl⟩ := SailOpening.exists_step_of_delayAhead? accepted
        have short : ∀ step ∈ SailStep.sequence,
            step.delayAfter.nanos ≤ SailStep.burnTime.nanos := by
          decide
        have shorter := short step (List.mem_of_mem_drop membership)
        omega
  · exact ⟨report, after, rfl⟩

end Computer

theorem Deployment.update_task (antenna : AntennaUnit Env) (context : Context Deployment Env) :
    (update antenna context).2.task = context.task := by
  unfold update
  split
  · rfl
  · rfl

namespace SailOpening

variable {context : Context SailOpening Env}

theorem update_step_le (autoOpen : Option Duration)
    (inside : context.task.step ≤ SailStep.sequence.length) :
    (update autoOpen context).2.task.step ≤ SailStep.sequence.length := by
  rcases update_cases autoOpen context with ⟨-, -, task, -⟩ | ⟨-, task, -⟩
  · rw [task]
    exact Nat.zero_le _
  · rw [task]
    exact inside

theorem finishIfDone_step : (finishIfDone context).task.step = context.task.step := by
  unfold finishIfDone
  split
  · rfl
  · rfl

theorem perform_step_le {power : PowerUnit Env} {steps : List SailStep}
    {before after : Context SailOpening Env}
    (remaining : before.task.step + steps.length ≤ SailStep.sequence.length)
    (performed : perform power steps before = .ok after) :
    after.task.step ≤ SailStep.sequence.length := by
  induction steps generalizing before with
  | nil =>
      cases performed
      rw [finishIfDone_step]
      exact remaining
  | cons step rest inductionHypothesis =>
      rw [List.length_cons] at remaining
      rcases perform_cons_cases performed with ⟨error, env, -, rfl⟩ |
        ⟨nextStep, env, -, -, -, rfl⟩ | ⟨env, -, -, remainder⟩
      · exact Nat.le_trans (Nat.le_add_right _ _) remaining
      · rw [finishIfDone_step]
        dsimp only
        omega
      · apply inductionHypothesis _ remainder
        dsimp only
        omega

theorem execute_step_le {power : PowerUnit Env} {before after : Context SailOpening Env}
    (inside : before.task.step ≤ SailStep.sequence.length)
    (performed : execute power before = .ok after) :
    after.task.step ≤ SailStep.sequence.length := by
  apply perform_step_le _ performed
  rw [List.length_drop]
  omega

end SailOpening

namespace Computer

/-- No more attempts than planned, and no more steps than there are. -/
structure Counted (config : MissionConfig) (computer : Computer Env) : Prop where
  attempts : computer.deployment.attempts ≤ config.deployment.maxAttempts.toNat
  steps : computer.sail.step ≤ SailStep.sequence.length

structure Unattempted (before after : Computer Env) : Prop where
  deployment : after.deployment = before.deployment
  steps : before.sail.step ≤ SailStep.sequence.length →
    after.sail.step ≤ SailStep.sequence.length

instance : IsPreorder (Computer Env) Unattempted where
  refl _ := ⟨rfl, id⟩
  trans _ _ _ early late := ⟨late.deployment.trans early.deployment, late.steps ∘ early.steps⟩

theorem Counted.unattempted {before after : Computer Env} (counted : Counted config before)
    (unattempted : Unattempted before after) : Counted config after where
  attempts := by
    rw [unattempted.deployment]
    exact counted.attempts
  steps := unattempted.steps counted.steps

structure SameTasks (before after : Computer Env) : Prop where
  deployment : after.deployment = before.deployment
  sail : after.sail = before.sail

instance : IsPreorder (Computer Env) SameTasks where
  refl _ := ⟨rfl, rfl⟩
  trans _ _ _ early late :=
    ⟨late.deployment.trans early.deployment, late.sail.trans early.sail⟩

theorem Counted.congr {before after : Computer Env} (counted : Counted config before)
    (same : SameTasks before after) : Counted config after :=
  counted.unattempted ⟨same.deployment, fun inside => same.sail ▸ inside⟩

theorem Counted.notified {computer : Computer Env} (counted : Counted config computer)
    (jump : Option TimeJump) : Counted config (timeObservers.notifyIf jump computer) := by
  cases jump with
  | none => exact counted
  | some jump =>
      have attempts : (computer.deployment.timeChanged jump).attempts =
          computer.deployment.attempts := by
        unfold Deployment.timeChanged
        split
        · rfl
        · rfl
      refine ⟨?_, ?_⟩
      · exact attempts ▸ counted.attempts
      · exact (computer.sail.timeChanged_retimed jump).step ▸ counted.steps

theorem Counted.checked {computer : Computer Env} (counted : Counted config computer) :
    Counted config (computer.checked hardware config) := by
  have each : ∀ update ∈ (schedule hardware config computer.errorLimit).updates,
      ∀ computer, Preserves (Counted config) computer (update.run computer).2 := by
    intro update membership computer counted
    simp only [schedule, List.mem_cons, List.not_mem_nil, or_false] at membership
    rcases membership with rfl | rfl | rfl | rfl
    · have told : Counted config
          (timekeeperPart.lift (Timekeeper.update hardware.clocks) computer).2 :=
        counted.congr ⟨rfl, rfl⟩
      exact told.notified _
    · exact counted.congr ⟨Deployment.update_task hardware.antenna (deploymentPart.get computer),
        rfl⟩
    · exact counted.congr ⟨rfl, rfl⟩
    · exact ⟨counted.attempts, SailOpening.update_step_le config.sailAutoOpen counted.steps⟩
  exact Schedule.runUpdates_along each _ (counted.congr ⟨rfl, rfl⟩)

variable (hardware config) in
theorem actions_unattempted (limit : ErrorLimit) (action : Action (Computer Env))
    (membership : action ∈ (schedule hardware config limit).actions.drop 1) :
    action.Respects Unattempted := by
  simp only [schedule, List.drop_succ_cons, List.drop_zero, List.mem_cons, List.not_mem_nil,
    or_false] at membership
  rcases membership with rfl | rfl | rfl | rfl | rfl
  · exact Action.through_respects (fun _ _ _ => ⟨rfl, id⟩)
      (Detumbling.action_sameState config.detumbling hardware.adcs)
  · refine ⟨fun _ => ⟨rfl, id⟩, ?_⟩
    intro before after executed
    obtain ⟨part, performed, rfl⟩ := Action.through_execute_eq_ok_iff.mp executed
    exact ⟨rfl, fun inside => SailOpening.execute_step_le inside performed⟩
  · exact Action.through_respects (fun _ _ _ => ⟨rfl, id⟩)
      (Broadcast.action_sameState config.beaconInterval (hardware.transmitter limit))
  · exact Action.through_respects (fun _ _ _ => ⟨rfl, id⟩)
      (PeriodicPowerCycle.action_sameState config.powerCyclePeriod hardware.scrubbing
        hardware.power)
  · refine ⟨fun _ => ⟨rfl, id⟩, ?_⟩
    intro before after executed
    cases executed
    exact ⟨rfl, id⟩

/-- An attempt is only made while there are some left, so that the plan holds after it. -/
theorem Counted.runCycle {before after : Computer Env} {report : CycleReport}
    (counted : Counted config before)
    (ran : before.runCycle hardware config = .ok (report, after)) : Counted config after := by
  obtain ⟨dispatched, cycled, rfl⟩ := runCycle_dispatches ran
  have start : Counted config (before.checked hardware config) := counted.checked
  have executed := (Schedule.runCycle_eq_ok cycled).1
  have course := @Schedule.dispatch_cases _ Unattempted _ []
    ((schedule hardware config before.errorLimit).actions.drop 1)
    (deploymentAction hardware config) nofun
    (actions_unattempted hardware config before.errorLimit) (fun _ => ⟨rfl, id⟩)
    (before.checked hardware config) dispatched executed
  have counted : Counted config dispatched := by
    cases due : Deployment.condition config.deployment
        (before.checked hardware config).deployment (before.checked hardware config).state with
    | false => exact start.unattempted (course.1 due)
    | true =>
        obtain ⟨reached, next, ahead, attempted, behind⟩ := course.2 due
        have ready := start.unattempted ahead
        have room := (Deployment.condition_iff.mp due).2.2.2.2
        rw [← ahead.deployment] at room
        obtain ⟨part, performed, rfl⟩ := Action.through_execute_eq_ok_iff.mp attempted
        obtain ⟨nextAttempt, -, rfl⟩ :=
          (Deployment.execute_eq_ok_iff (Nat.lt_of_lt_of_le room
            (Nat.le_of_lt_succ config.deployment.maxAttempts.toNat_lt))).mp performed
        refine Counted.unattempted ⟨?_, ?_⟩ behind
        · exact room
        · exact ready.steps
  exact counted.congr ⟨rfl, rfl⟩

theorem poll_sameTasks (config : MissionConfig) (computer : Computer Env) :
    SameTasks computer (computer.poll hardware config).2 := by
  apply poll_respects
  · exact fun _ => ⟨rfl, rfl⟩
  · exact fun _ => ⟨rfl, rfl⟩
  · exact fun _ => ⟨rfl, rfl⟩
  · exact fun _ => ⟨rfl, rfl⟩

/--
A computer after any cycles, polls, requests and changes of mission time since
its boot. Apart from that, anything but the two tasks that count may change
between two calls: the devices, their clocks, the settings, mission time.
-/
inductive InService (hardware : Hardware Env) (config : MissionConfig) : Computer Env → Prop
  | boot {env : Env} {computer : Computer Env}
      (booted : Computer.boot hardware config env = .ok computer) :
      InService hardware config computer
  | cycle {before after : Computer Env} {report : CycleReport}
      (inService : InService hardware config before)
      (ran : before.runCycle hardware config = .ok (report, after)) :
      InService hardware config after
  | poll {computer : Computer Env} (inService : InService hardware config computer) :
      InService hardware config (computer.poll hardware config).2
  | requestSail {computer : Computer Env} (inService : InService hardware config computer) :
      InService hardware config computer.requestSail.2
  | setTime {computer : Computer Env} (inService : InService hardware config computer)
      (time : Duration) : InService hardware config (computer.setTime hardware time).2
  | elsewhere {before after : Computer Env} (inService : InService hardware config before)
      (same : SameTasks before after) : InService hardware config after

theorem InService.counted {computer : Computer Env}
    (inService : InService hardware config computer) : Counted config computer := by
  induction inService with
  | boot booted =>
      obtain ⟨-, rfl⟩ := Computer.boot_eq_ok_iff.mp booted
      exact ⟨Nat.zero_le _, Nat.zero_le _⟩
  | cycle _ ran inductionHypothesis => exact inductionHypothesis.runCycle ran
  | poll _ inductionHypothesis => exact inductionHypothesis.congr (poll_sameTasks config _)
  | requestSail _ inductionHypothesis =>
      exact ⟨inductionHypothesis.attempts, inductionHypothesis.steps⟩
  | setTime _ time inductionHypothesis => exact inductionHypothesis.congr ⟨rfl, rfl⟩
  | elsewhere _ same inductionHypothesis => exact inductionHypothesis.congr same

/--
A cycle stops just if the next attempt to deploy the antennas, or the next step
of the opening, would be due later than a duration can say; and so never where
mission time keeps its distance to the longest duration. No counter of a task
comes to its end, whatever happens in service.
-/
theorem stops_at_last_deadline (hardware : Hardware Env) (config : MissionConfig) :
    (∀ computer, InService hardware config computer →
      computer.deployment.attempts ≤ config.deployment.maxAttempts.toNat ∧
        computer.sail.step ≤ SailStep.sequence.length) ∧
    ∀ computer : Computer Env,
      (∀ fault, computer.runCycle hardware config = .error fault ↔
        fault = .durationOverflow ∧ computer.Overruns hardware config) ∧
      ((computer.checked hardware config).state.time.nanos +
            max config.deployment.retryInterval.nanos SailStep.burnTime.nanos ≤
          Duration.longest.nanos →
        ∃ report after, computer.runCycle hardware config = .ok (report, after)) := by
  refine ⟨fun computer inService => ?_, fun computer => ⟨fun fault => runCycle_stops_iff, ?_⟩⟩
  · exact ⟨inService.counted.attempts, inService.counted.steps⟩
  · intro distant
    apply runCycle_returns
    · omega
    · omega

def onFreshBench : Computer Bench :=
  let loaded := (Bench.hardware false).storage.loadOrInitial Bench.fresh
  .ofSettings loaded.1 loaded.2

def lastSecond : Duration :=
  .ofSeconds 18446744073709551615

theorem stops_at_last_deadline_onBench :
    InService (Bench.hardware false) .standard onFreshBench ∧
      onFreshBench.deployment.attempts ≤ 8 ∧
      ∃ report after,
        onFreshBench.runCycle (Bench.hardware false) .standard = .ok (report, after) := by
  have valid : MissionConfig.standard.validate = .ok .standard := by decide
  have booted : Computer.boot (Bench.hardware false) .standard Bench.fresh = .ok onFreshBench :=
    Computer.boot_eq_ok_iff.mpr ⟨valid, rfl⟩
  obtain ⟨counted, cycles⟩ := stops_at_last_deadline (Bench.hardware false) .standard
  exact ⟨.boot booted, (counted _ (.boot booted)).1, (cycles onFreshBench).2 (by decide +kernel)⟩

/-- Standard settings and a mission time that the computer accepts stop it at the first attempt. -/
theorem stopped_at_last_second :
    MissionConfig.standard.validate = .ok .standard ∧
    (onFreshBench.setTime (Bench.hardware false) lastSecond).1 = true ∧
    (onFreshBench.setTime (Bench.hardware false) lastSecond).2.runCycle (Bench.hardware false)
      .standard = .error .durationOverflow := by
  refine ⟨by decide, by decide +kernel, runCycle_stops_iff.mpr ⟨rfl, ?_⟩⟩
  exact .attempt (by decide +kernel) (by decide +kernel)

end Computer

end Cubesat
