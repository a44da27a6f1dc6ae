import Cubesat.Computer.Cycle
import Cubesat.Proofs.Comm.Touch
import Cubesat.Proofs.Task.Confined
import Mathlib.Order.RelClasses

/-!
What a flight computer does apart from opening the sail and from saving.

Time, the antenna, the attitude, the beacon, the periodic power cycle and the
polls of the radio leave the settings alone and do not advance the opening of
the sail. To the devices they do what the operations that they use do.
-/

namespace Cubesat

universe u

open Relation (ReflTransGen)

variable {Env : Type u} {hardware : Hardware Env} {touches : Env → Env → Prop}

structure SailOpening.Retimed (before after : SailOpening) : Prop where
  step : after.step = before.step
  inProgress : after.inProgress = before.inProgress
  requested : after.requested = before.requested

instance : IsPreorder SailOpening SailOpening.Retimed where
  refl _ := ⟨rfl, rfl, rfl⟩
  trans _ _ _ early late :=
    ⟨late.step.trans early.step, late.inProgress.trans early.inProgress,
      late.requested.trans early.requested⟩

theorem SailOpening.timeChanged_retimed (jump : TimeJump) (task : SailOpening) :
    task.Retimed (task.timeChanged jump) := by
  unfold timeChanged
  split
  · exact ⟨rfl, rfl, rfl⟩
  · exact Std.Refl.refl _

namespace Hardware

/-- The clocks, the antenna and the attitude control change the devices along a relation. -/
structure UnitsRespect (hardware : Hardware Env) (touches : Env → Env → Prop) : Prop where
  missionNow : ∀ env, touches env (hardware.clocks.mission.now env).2
  missionSet : ∀ time env, touches env (hardware.clocks.mission.set time env).2
  externalNow : ∀ external ∈ hardware.clocks.external, ∀ env, touches env (external.now env).2
  externalSet : ∀ external ∈ hardware.clocks.external, ∀ time env,
    touches env (external.set time env).2
  status : ∀ env, touches env (hardware.antenna.status env).2
  deploy : ∀ env, touches env (hardware.antenna.deploy env).2
  startDetumbling : ∀ env, touches env (hardware.adcs.startDetumbling env).2
  stop : ∀ env, touches env (hardware.adcs.stop env).2

/-- Transfers, pauses and power cycles change the devices along a relation. -/
structure LinkRespects (hardware : Hardware Env) (touches : Env → Env → Prop) : Prop where
  write : ∀ address data env, touches env (hardware.bus.write address data env).2
  fetch : ∀ address buffer env, touches env (hardware.bus.fetch address buffer env).2
  pause : ∀ millis env, touches env (hardware.pause millis env)
  cycle : ∀ env, touches env (hardware.power.cycle env).2

namespace LinkRespects

variable [IsPreorder Env touches] (respects : hardware.LinkRespects touches)

include respects

theorem record (limit : ErrorLimit) (result : BusResult) (guarded : Guarded Env) :
    touches guarded.env
      (guarded.record limit (fun env => (hardware.power.cycle env).2) result).env := by
  unfold Guarded.record
  split
  · exact Std.Refl.refl _
  · dsimp only
    split
    · exact respects.cycle guarded.env
    · exact Std.Refl.refl _

theorem touch {limit : ErrorLimit} {before after : Guarded Env}
    (touch : (hardware.link limit).Touch before after) : touches before.env after.env := by
  cases touch with
  | write address data =>
      have sent := respects.write address data before.env
      exact IsTrans.trans _ _ _ sent (respects.record limit _
        { before with env := (hardware.bus.write address data before.env).2 })
  | fetch address buffer =>
      have received := respects.fetch address buffer before.env
      exact IsTrans.trans _ _ _ received (respects.record limit _
        { before with env := (hardware.bus.fetch address buffer before.env).2 })
  | pause millis => exact respects.pause millis before.env

theorem reaches {limit : ErrorLimit} {before after : Guarded Env}
    (reaches : ReflTransGen (hardware.link limit).Touch before after) :
    touches before.env after.env := by
  induction reaches with
  | refl => exact Std.Refl.refl _
  | tail _ touch inductionHypothesis =>
      exact IsTrans.trans _ _ _ inductionHypothesis (respects.touch touch)

end LinkRespects

end Hardware

namespace Computer

/--
The settings are as they were, the opening of the sail is as far as it was, and
the devices have changed along a relation.
-/
structure Aside (touches : Env → Env → Prop) (before after : Computer Env) : Prop where
  sail : before.sail.Retimed after.sail
  persistent : after.state.persistent = before.state.persistent
  env : touches before.env after.env

instance [IsPreorder Env touches] : IsPreorder (Computer Env) (Aside touches) where
  refl _ := ⟨Std.Refl.refl _, rfl, Std.Refl.refl _⟩
  trans _ _ _ early late :=
    ⟨IsTrans.trans _ _ _ early.sail late.sail, late.persistent.trans early.persistent,
      IsTrans.trans _ _ _ early.env late.env⟩

theorem updates_eq (hardware : Hardware Env) (config : MissionConfig) (limit : ErrorLimit) :
    (schedule hardware config limit).updates =
      (schedule hardware config limit).updates.dropLast ++
        [(SailOpening.observation config.sailAutoOpen).through sailPart] := rfl

section Units

variable [IsPreorder Env touches] (units : hardware.UnitsRespect touches)

theorem notify_aside (jump : Option TimeJump) (computer : Computer Env) :
    Aside touches computer (timeObservers.notifyIf jump computer) := by
  cases jump with
  | none => exact Std.Refl.refl _
  | some jump =>
      exact ⟨computer.sail.timeChanged_retimed jump, rfl, Std.Refl.refl _⟩

include units

theorem timeUpdate_aside (computer : Computer Env) :
    Aside touches computer ((timeUpdate hardware.clocks).run computer).2 := by
  have spared := Timekeeper.update_spared units.missionNow units.missionSet units.externalNow
    (timekeeperPart.get computer)
  have updated : Aside touches computer
      (timekeeperPart.lift (Timekeeper.update hardware.clocks) computer).2 :=
    ⟨Std.Refl.refl _, spared.persistent, spared.env⟩
  exact IsTrans.trans _ _ _ updated (notify_aside _ _)

theorem setTime_aside (time : Duration) (computer : Computer Env) :
    Aside touches computer (computer.setTime hardware time).2 :=
  ⟨Std.Refl.refl _, rfl, Timekeeper.setTime_touches units.missionSet units.externalSet time
    computer.timekeeper computer.env⟩

/-- All updates but the last one, which is that of the sail opening. -/
theorem observations_aside (config : MissionConfig) (limit : ErrorLimit)
    (update : Update (Computer Env))
    (membership : update ∈ (schedule hardware config limit).updates.dropLast)
    (computer : Computer Env) : Aside touches computer (update.run computer).2 := by
  simp only [schedule, List.dropLast_cons_cons, List.dropLast_singleton, List.mem_cons,
    List.not_mem_nil, or_false] at membership
  rcases membership with rfl | rfl | rfl
  · exact timeUpdate_aside units computer
  · have spared := Deployment.update_spared units.status (deploymentPart.get computer)
    exact ⟨Std.Refl.refl _, spared.persistent, spared.env⟩
  · exact ⟨Std.Refl.refl _, rfl, Std.Refl.refl _⟩

theorem deployment_respects (plan : DeploymentPlan) :
    ((Deployment.action plan hardware.antenna).through deploymentPart).Respects
      (Aside touches) :=
  Action.through_respects (fun _ _ spared => ⟨Std.Refl.refl _, spared.persistent, spared.env⟩)
    (Deployment.action_spares units.deploy)

theorem detumbling_respects (window : DetumblingWindow) :
    ((Detumbling.action window hardware.adcs).through detumblingPart).Respects
      (Aside touches) :=
  Action.through_respects (fun _ _ spared => ⟨Std.Refl.refl _, spared.persistent, spared.env⟩)
    (Detumbling.action_spares units.startDetumbling units.stop)

end Units

section Radio

def radioDevices (radio : Radio (Guarded Env)) : Env :=
  radio.env.env

variable [IsPreorder Env touches] (link : hardware.LinkRespects touches)

include link

theorem beacon_respects (interval : Duration) (limit : ErrorLimit) :
    ((Broadcast.action interval (hardware.transmitter limit)).through broadcastPart).Respects
      (Aside touches) := by
  have sending : (Broadcast.action interval (hardware.transmitter limit)).Respects
      (Spared Context.outerPart.get (Order.Preimage radioDevices touches)) := by
    apply Broadcast.action_spares
    intro frame radio
    exact link.reaches (radio.sendFrame_reaches _ frame)
  exact Action.through_respects
    (fun _ _ spared => ⟨Std.Refl.refl _, spared.persistent, spared.env⟩) sending

theorem powerCycle_respects (period : Duration) :
    ((PeriodicPowerCycle.action period hardware.scrubbing hardware.power).through
      powerCyclePart).Respects (Aside touches) :=
  Action.through_respects (fun _ _ spared => ⟨Std.Refl.refl _, spared.persistent, spared.env⟩)
    (PeriodicPowerCycle.action_spares link.cycle)

/-- A poll up to the point at which it does what the ground asks for. -/
theorem polled_aside (config : MissionConfig) (computer : Computer Env) :
    Aside touches computer (radioPart.lift (Radio.poll (hardware.link computer.errorLimit)
      config.securityCode) computer).2 :=
  ⟨Std.Refl.refl _, rfl, link.reaches ((radioPart.get computer).poll_reaches _ _)⟩

end Radio

/-- A cycle that returns has run the schedule, and has tried to save once more. -/
theorem runCycle_dispatches {config : MissionConfig} {before after : Computer Env}
    {report : CycleReport} (ran : before.runCycle hardware config = .ok (report, after)) :
    ∃ dispatched,
      (schedule hardware config before.errorLimit).runCycle (before.cycleCount + 1)
          { before with cycleCount := before.cycleCount + 1 } = .ok (report, dispatched) ∧
        after = (dispatched.flush hardware).2 := by
  unfold runCycle at ran
  dsimp only at ran
  rcases cycled : (schedule hardware config before.errorLimit).runCycle (before.cycleCount + 1)
    { before with cycleCount := before.cycleCount + 1 } with fault | ⟨found, dispatched⟩
  · rw [cycled] at ran
    cases ran
  · rw [cycled] at ran
    cases ran
    exact ⟨dispatched, rfl, rfl⟩

theorem poll_respects {along : Computer Env → Computer Env → Prop}
    [IsPreorder (Computer Env) along] {config : MissionConfig}
    (polled : ∀ computer : Computer Env, along computer (radioPart.lift
      (Radio.poll (hardware.link computer.errorLimit) config.securityCode) computer).2)
    (noted : ∀ computer : Computer Env,
      along computer { computer with broadcast := computer.broadcast.requestImmediate })
    (flushed : ∀ computer : Computer Env, along computer (computer.flush hardware).2)
    (cut : ∀ computer : Computer Env,
      along computer { computer with env := (hardware.power.cycle computer.env).2 })
    (computer : Computer Env) : along computer (computer.poll hardware config).2 := by
  have drained := polled computer
  unfold poll
  dsimp only
  split
  · exact drained
  · exact IsTrans.trans _ _ _ drained (noted _)
  · exact IsTrans.trans _ _ _ (IsTrans.trans _ _ _ drained (flushed _)) (cut _)

end Computer

end Cubesat
