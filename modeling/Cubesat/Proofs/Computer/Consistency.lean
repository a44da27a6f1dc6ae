import Cubesat.Proofs.Computer.Aside
import Cubesat.Proofs.Sail.Consistency
import Cubesat.Proofs.Task.Timing
import Cubesat.Simulator.Bench

/-!
The consistency check of the sail within the cycles of a flight computer.

A cycle checks what its updates have left, and the opening is updated last. All
that the check needs from before is that a running opening is on record, and
this holds in any run in which nobody else writes the record.
-/

namespace Cubesat

universe u

variable {Env : Type u} {hardware : Hardware Env}

def Freely (_ _ : Env) : Prop :=
  True

instance : IsPreorder Env Freely where
  refl _ := trivial
  trans _ _ _ _ _ := trivial

namespace Hardware

variable (hardware) in
theorem units_freely : hardware.UnitsRespect Freely where
  missionNow _ := trivial
  missionSet _ _ := trivial
  externalNow _ _ _ := trivial
  externalSet _ _ _ _ := trivial
  status _ := trivial
  deploy _ := trivial
  startDetumbling _ := trivial
  stop _ := trivial

variable (hardware) in
theorem link_freely : hardware.LinkRespects Freely where
  write _ _ _ := trivial
  fetch _ _ _ := trivial
  pause _ _ := trivial
  cycle _ := trivial

end Hardware

namespace Computer

def IsOnRecord (computer : Computer Env) : Prop :=
  computer.sail.IsOnRecord computer.state

/-- A running opening is on record, and the observed stage is the one on record. -/
def Coherent (computer : Computer Env) : Prop :=
  computer.sail.Coherent computer.state

theorem IsOnRecord.congr {before after : Computer Env} (onRecord : before.IsOnRecord)
    (sail : after.sail.inProgress = before.sail.inProgress)
    (record : after.state.settings.sail = before.state.settings.sail) : after.IsOnRecord := by
  intro running
  rw [record]
  exact onRecord (sail.symm.trans running)

theorem Coherent.isOnRecord {computer : Computer Env} (coherent : computer.Coherent) :
    computer.IsOnRecord :=
  coherent.onRecord

theorem Coherent.congr {before after : Computer Env} (coherent : before.Coherent)
    (sail : after.sail = before.sail) (observed : after.state.sail = before.state.sail)
    (record : after.state.settings.sail = before.state.settings.sail) : after.Coherent where
  onRecord := coherent.isOnRecord.congr (congrArg SailOpening.inProgress sail) record
  agrees := by rw [observed, record, coherent.agrees]

theorem Aside.isOnRecord {before after : Computer Env} (aside : Aside Freely before after) :
    Preserves IsOnRecord before after := fun onRecord =>
  onRecord.congr aside.sail.inProgress
    (congrArg (fun persistent => persistent.settings.sail) aside.persistent)

theorem Coherent.of_same {before after : Computer Env} (coherent : before.Coherent)
    (sail : after.sail = before.sail) (state : after.state = before.state) : after.Coherent :=
  coherent.congr sail (congrArg SystemState.sail state)
    (congrArg (fun state => state.settings.sail) state)

theorem flush_record (computer : Computer Env) :
    (computer.flush hardware).2.state.settings.sail = computer.state.settings.sail :=
  congrArg Settings.sail (hardware.storage.flush_settings computer.state computer.env)

theorem flush_coherent (computer : Computer Env) :
    Preserves Coherent computer (computer.flush hardware).2 := by
  intro coherent
  have observed : (computer.flush hardware).2.state.sail = computer.state.sail := by
    rcases hardware.storage.flush_state computer.state computer.env with same | saved
    · exact (congrArg SystemState.sail same :)
    · exact (congrArg SystemState.sail saved :)
  exact coherent.congr rfl observed (flush_record computer)

variable (hardware) in
/-- An action leaves the stages in agreement, that of the opening included. -/
theorem actions_coherent (config : MissionConfig) (limit : ErrorLimit)
    (action : Action (Computer Env))
    (membership : action ∈ (schedule hardware config limit).actions) :
    action.Respects (Preserves Coherent) := by
  simp only [schedule, List.mem_cons, List.not_mem_nil, or_false] at membership
  rcases membership with rfl | rfl | rfl | rfl | rfl | rfl
  · exact Action.through_respects (fun _ _ same coherent => coherent.of_same rfl same)
      (Deployment.action_sameState config.deployment hardware.antenna)
  · exact Action.through_respects (fun _ _ same coherent => coherent.of_same rfl same)
      (Detumbling.action_sameState config.detumbling hardware.adcs)
  · refine ⟨fun _ coherent => coherent, ?_⟩
    intro before after executed coherent
    obtain ⟨part, performed, rfl⟩ := Action.through_execute_eq_ok_iff.mp executed
    have start : (sailPart.get before).task.Coherent (sailPart.get before).state := coherent
    exact SailOpening.perform_coherent start performed
  · exact Action.through_respects (fun _ _ same coherent => coherent.of_same rfl same)
      (Broadcast.action_sameState config.beaconInterval (hardware.transmitter limit))
  · exact Action.through_respects (fun _ _ same coherent => coherent.of_same rfl same)
      (PeriodicPowerCycle.action_sameState config.powerCyclePeriod hardware.scrubbing
        hardware.power)
  · refine ⟨fun _ coherent => coherent, ?_⟩
    intro before after executed
    cases executed
    exact flush_coherent before

def checked (hardware : Hardware Env) (config : MissionConfig) (computer : Computer Env) :
    Computer Env :=
  (Schedule.runUpdates (schedule hardware config computer.errorLimit).updates
    { computer with cycleCount := computer.cycleCount + 1 }).2

variable (hardware) in
/-- The updates end with that of the opening, which makes the stages agree. -/
theorem checked_coherent (config : MissionConfig) {computer : Computer Env}
    (onRecord : computer.IsOnRecord) : (computer.checked hardware config).Coherent := by
  have aside := Schedule.runUpdates_along
    (observations_aside hardware.units_freely config computer.errorLimit)
    { computer with cycleCount := computer.cycleCount + 1 }
  unfold checked
  rw [updates_eq, Schedule.runUpdates_concat]
  exact SailOpening.update_coherent config.sailAutoOpen (aside.isOnRecord onRecord)

/-- What the checks of the next cycle report, whether or not its dispatch returns. -/
def verifications (hardware : Hardware Env) (config : MissionConfig) (computer : Computer Env) :
    List (String × VerifyResult) :=
  Schedule.runVerifies (schedule hardware config computer.errorLimit).verifies
    (computer.checked hardware config)

theorem runCycle_coherent {config : MissionConfig} {before after : Computer Env}
    {report : CycleReport} (onRecord : before.IsOnRecord)
    (ran : before.runCycle hardware config = .ok (report, after)) :
    report.verifications = before.verifications hardware config ∧ after.Coherent := by
  obtain ⟨dispatched, cycled, rfl⟩ := runCycle_dispatches ran
  have actions := actions_coherent hardware config before.errorLimit
  have asked := Schedule.selectRunnable_along
    (fun action membership => (actions action membership).condition)
    (before.checked hardware config)
  have executed := Schedule.executeAll_along
    (fun action membership => (actions action
      ((Schedule.selectRunnable_sublist _ _).subset membership)).execute)
    (Schedule.runCycle_eq_ok cycled).1
  refine ⟨Schedule.runCycle_verifications cycled, ?_⟩
  exact flush_coherent dispatched (executed (asked (checked_coherent hardware config onRecord)))

theorem poll_isOnRecord (config : MissionConfig) (computer : Computer Env) :
    Preserves IsOnRecord computer (computer.poll hardware config).2 := by
  apply poll_respects
  · intro computer
    exact (polled_aside hardware.link_freely config computer).isOnRecord
  · exact fun _ onRecord => onRecord
  · exact fun computer onRecord => onRecord.congr rfl (flush_record computer)
  · exact fun _ onRecord => onRecord

end Computer

/--
A computer after any calls in which only its own opening of the sail has written
the record since boot. Apart from that, anything may change between two calls.
-/
inductive Untampered (hardware : Hardware Env) (config : MissionConfig) : Computer Env → Prop
  | boot {env : Env} {computer : Computer Env}
      (booted : Computer.boot hardware config env = .ok computer) :
      Untampered hardware config computer
  | cycle {before after : Computer Env} {report : CycleReport}
      (untampered : Untampered hardware config before)
      (ran : before.runCycle hardware config = .ok (report, after)) :
      Untampered hardware config after
  | poll {computer : Computer Env} (untampered : Untampered hardware config computer) :
      Untampered hardware config (computer.poll hardware config).2
  | requestSail {computer : Computer Env} (untampered : Untampered hardware config computer) :
      Untampered hardware config computer.requestSail.2
  | setTime {computer : Computer Env} (untampered : Untampered hardware config computer)
      (time : Duration) : Untampered hardware config (computer.setTime hardware time).2
  | elsewhere {before after : Computer Env} (untampered : Untampered hardware config before)
      (sail : after.sail = before.sail)
      (record : after.state.settings.sail = before.state.settings.sail) :
      Untampered hardware config after

namespace Untampered

variable {config : MissionConfig}

theorem isOnRecord {computer : Computer Env} (untampered : Untampered hardware config computer) :
    computer.IsOnRecord := by
  induction untampered with
  | boot booted =>
      intro running
      obtain ⟨-, rfl⟩ := Computer.boot_eq_ok_iff.mp booted
      cases running
  | cycle _ ran inductionHypothesis =>
      exact (Computer.runCycle_coherent inductionHypothesis ran).2.isOnRecord
  | poll _ inductionHypothesis =>
      exact Computer.poll_isOnRecord config _ inductionHypothesis
  | requestSail _ inductionHypothesis => exact inductionHypothesis.congr rfl rfl
  | setTime _ time inductionHypothesis =>
      exact (Computer.setTime_aside hardware.units_freely time _).isOnRecord inductionHypothesis
  | elsewhere _ sail record inductionHypothesis =>
      exact inductionHypothesis.congr (congrArg SailOpening.inProgress sail) record

end Untampered

namespace SailOpening

/--
The consistency check raises no false alarm. Whatever is stored at boot and
whatever happens since, every cycle finds the stages in agreement and leaves
them so, if only the opening writes its record. Where somebody else has written
it, or the observed stage, one update without an opening in progress is enough.
-/
theorem consistency_never_fails (hardware : Hardware Env) (config : MissionConfig) :
    (∀ before : Computer Env, Untampered hardware config before →
      before.verifications hardware config = [("sail.consistency", .ok)] ∧
        ∀ report after, before.runCycle hardware config = .ok (report, after) →
          report.verifications = [("sail.consistency", .ok)] ∧
            after.state.sail = after.state.settings.sail.stage) ∧
      ∀ (autoOpen : Option Duration) (context : Context SailOpening Env),
        context.task.inProgress = false →
          consistency (update autoOpen context).2.state = .ok := by
  constructor
  · intro before untampered
    have onRecord := untampered.isOnRecord
    have checked := Computer.checked_coherent hardware config onRecord
    have passes : before.verifications hardware config = [("sail.consistency", .ok)] :=
      congrArg (fun result => [("sail.consistency", result)])
        (consistency_eq_ok_iff.mpr checked.agrees)
    refine ⟨passes, ?_⟩
    intro report after ran
    obtain ⟨verifications, coherent⟩ := Computer.runCycle_coherent onRecord ran
    exact ⟨verifications.trans passes, coherent.agrees⟩
  · intro autoOpen context idle
    have onRecord : context.task.IsOnRecord context.state := by
      intro running
      rw [idle] at running
      cases running
    exact consistency_eq_ok_iff.mpr (update_coherent autoOpen onRecord).agrees

def unfolded : Bench :=
  ((Bench.hardware false).storage.save
    { PersistentState.initial.settings with sail := .opened } Bench.fresh).2

def reopened (computer : Computer Bench) : Computer Bench :=
  { computer.requestSail.2 with
    env := { computer.env with eps := { computer.env.eps with failing := true } } }

theorem consistency_never_fails_reopened :
    (∃ booted report after,
      Computer.boot (Bench.hardware false) .standard unfolded = .ok booted ∧
        booted.state.settings.sail = .opened ∧
        (reopened booted).runCycle (Bench.hardware false) .standard = .ok (report, after) ∧
        after.state.settings.sail = .opening ∧
        report.verifications = [("sail.consistency", .ok)] ∧ after.state.sail = .opening) ∧
      start.inProgress = false ∧
        consistency { SystemState.initial with sail := .opening } = .failure ∧
        consistency (update none
          ⟨start, { SystemState.initial with sail := .opening }, Bench.fresh⟩).2.state = .ok := by
  obtain ⟨runs, updates⟩ := consistency_never_fails (Bench.hardware false) .standard
  refine ⟨?_, rfl, rfl, updates none _ rfl⟩
  have settles : (Computer.boot (Bench.hardware false) .standard unfolded).toOption.map
      (fun booted => (booted.state.settings.sail,
        ((reopened booted).runCycle (Bench.hardware false) .standard).toOption.map
          fun (_, after) => after.state.settings.sail)) = some (.opened, some .opening) := by
    decide +kernel
  cases booted : Computer.boot (Bench.hardware false) .standard unfolded with
  | error error =>
      rw [booted] at settles
      cases settles
  | ok before =>
      rw [booted] at settles
      rcases ran : (reopened before).runCycle (Bench.hardware false) .standard with
        fault | ⟨report, after⟩
      · simp only [Except.toOption, Option.map_some, ran, Option.map_none, Option.some.injEq,
          Prod.mk.injEq, reduceCtorEq, and_false] at settles
      · simp only [Except.toOption, Option.map_some, ran, Option.some.injEq, Prod.mk.injEq]
          at settles
        obtain ⟨opened, opening⟩ := settles
        have requested := (Untampered.boot booted).requestSail
        have untampered : Untampered (Bench.hardware false) .standard (reopened before) :=
          requested.elsewhere rfl rfl
        obtain ⟨passes, agrees⟩ := (runs _ untampered).2 report after ran
        rw [opening] at agrees
        exact ⟨before, report, after, rfl, opened, ran, opening, passes, agrees⟩

end SailOpening

end Cubesat
