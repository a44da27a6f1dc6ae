import Cubesat.Antenna.Deployment
import Cubesat.Attitude.Detumbling
import Cubesat.Beacon.Broadcast
import Cubesat.Clock.Timekeeper
import Cubesat.Power.Periodic
import Cubesat.Proofs.Mission.Course
import Cubesat.Proofs.Sail.Steps
import Cubesat.Settings.Saving

/-!
What the tasks of a mission cycle leave as it is.

No task but the sail opening changes a setting, and the sail opening changes
the sail record alone and takes note of it. What a task does to its devices is
left to a relation that the operations of the devices are known to respect.
-/

namespace Cubesat

universe u v w

/-- Of the settings only the sail record may have changed, and then the change is noted. -/
structure SystemState.SailRecorded (before after : SystemState) : Prop where
  settings : after.settings = { before.settings with sail := after.settings.sail }
  noted : after.persistent = before.persistent ∨ after.persistent.modified = true

namespace SystemState

theorem SailRecorded.of_persistent_eq {before after : SystemState}
    (same : after.persistent = before.persistent) : before.SailRecorded after where
  settings := by
    rw [show after.settings = before.settings from congrArg PersistentState.settings same]
  noted := .inl same

theorem SailRecorded.of_sail {before after : SystemState} {record : SailRecord}
    (same : after.persistent = before.persistent.set (.sail record)) :
    before.SailRecorded after where
  settings := by
    rw [show after.settings = before.settings.apply (.sail record) from
      congrArg PersistentState.settings same]
    rfl
  noted := .inr (by rw [same, PersistentState.modified_set])

theorem SailRecorded.trans {first second third : SystemState} (early : first.SailRecorded second)
    (late : second.SailRecorded third) : first.SailRecorded third where
  settings := by
    rw [late.settings, early.settings]
  noted := by
    rcases late.noted with same | modified
    · rw [same]
      exact early.noted
    · exact .inr modified

end SystemState

/--
The shared state and the devices within a whole have changed as tasks change
them: the devices along a relation, the settings in the sail record alone.
-/
structure Confined {Whole : Type u} {Env : Type v} (part : Whole → SystemState × Env)
    (touches : Env → Env → Prop) (before after : Whole) : Prop where
  state : (part before).1.SailRecorded (part after).1
  env : touches (part before).2 (part after).2

instance {Whole : Type u} {Env : Type v} (part : Whole → SystemState × Env)
    (touches : Env → Env → Prop) [IsPreorder Env touches] :
    IsPreorder Whole (Confined part touches) where
  refl _ := ⟨.of_persistent_eq rfl, Std.Refl.refl _⟩
  trans _ _ _ early late :=
    ⟨early.state.trans late.state, IsTrans.trans _ _ _ early.env late.env⟩

structure Spared {Whole : Type u} {Env : Type v} (part : Whole → SystemState × Env)
    (touches : Env → Env → Prop) (before after : Whole) : Prop where
  persistent : (part after).1.persistent = (part before).1.persistent
  env : touches (part before).2 (part after).2

instance {Whole : Type u} {Env : Type v} (part : Whole → SystemState × Env)
    (touches : Env → Env → Prop) [IsPreorder Env touches] :
    IsPreorder Whole (Spared part touches) where
  refl _ := ⟨rfl, Std.Refl.refl _⟩
  trans _ _ _ early late :=
    ⟨late.persistent.trans early.persistent, IsTrans.trans _ _ _ early.env late.env⟩

theorem Confined.mono {Whole : Type u} {Env : Type v} {part : Whole → SystemState × Env}
    {touches wider : Env → Env → Prop} (widens : ∀ {before after}, touches before after →
      wider before after) {before after : Whole} (confined : Confined part touches before after) :
    Confined part wider before after :=
  ⟨confined.state, widens confined.env⟩

theorem Action.through_respects {Whole : Type u} {Part : Type v} {lens : Lens Whole Part}
    {action : Action Part} {along : Part → Part → Prop} {wide : Whole → Whole → Prop}
    (widen : ∀ whole part, along (lens.get whole) part → wide whole (lens.set part whole))
    (respects : action.Respects along) : (action.through lens).Respects wide where
  condition whole := widen whole _ (respects.condition _)
  execute before after executed := by
    obtain ⟨part, done, rfl⟩ := Action.through_execute_eq_ok_iff.mp executed
    exact widen before part (respects.execute _ _ done)

theorem Action.Respects.mono {State : Type u} {action : Action State}
    {along wider : State → State → Prop} (respects : action.Respects along)
    (widens : ∀ {before after}, along before after → wider before after) :
    action.Respects wider where
  condition state := widens (respects.condition state)
  execute before after executed := widens (respects.execute before after executed)

theorem Action.ofPure_respects {State : Type u} {along : State → State → Prop}
    [IsPreorder State along] {name : String} {condition : State → Bool}
    {execute : State → Except Fault State}
    (respects : ∀ before after, execute before = .ok after → along before after) :
    (Action.ofPure name condition execute).Respects along where
  condition _ := Std.Refl.refl _
  execute := respects

section Tasks

variable {Env : Type u} {touches : Env → Env → Prop}

namespace Timekeeper

theorem correct_touches [IsPreorder Env touches] {clocks : Clocks Env}
    (missionSet : ∀ time env, touches env (clocks.mission.set time env).2)
    (externalNow : ∀ external ∈ clocks.external, ∀ env, touches env (external.now env).2)
    (weights : ClockWeights) (mcu : Duration) (task : Timekeeper) (env : Env) :
    touches env (correct clocks weights mcu task env).2.2 := by
  unfold correct
  cases fitted : clocks.external with
  | none => exact Std.Refl.refl _
  | some external =>
      have reading := externalNow external fitted env
      rcases answered : external.now env with ⟨_ | time, middle⟩
      · rw [answered] at reading
        simp only [answered]
        exact reading
      · rw [answered] at reading
        simp only [answered]
        cases task.reference
        all_goals
          dsimp only
          split
          · exact reading
          · exact IsTrans.trans _ _ _ reading (missionSet _ _)

theorem update_spared [IsPreorder Env touches] {clocks : Clocks Env}
    (missionNow : ∀ env, touches env (clocks.mission.now env).2)
    (missionSet : ∀ time env, touches env (clocks.mission.set time env).2)
    (externalNow : ∀ external ∈ clocks.external, ∀ env, touches env (external.now env).2)
    (context : Context Timekeeper Env) :
    Spared Context.outerPart.get touches context (update clocks context).2 := by
  have reading := missionNow context.env
  unfold update
  split
  · exact ⟨rfl, Std.Refl.refl _⟩
  · rcases answered : clocks.mission.now context.env with ⟨_ | now, middle⟩
    · rw [answered] at reading
      exact ⟨rfl, reading⟩
    · rw [answered] at reading
      dsimp only
      split
      · exact ⟨rfl, reading⟩
      · have corrected := correct_touches missionSet externalNow
          context.state.settings.clockWeights now context.task middle
        exact ⟨rfl, IsTrans.trans _ _ _ reading corrected⟩

theorem setTime_touches [IsPreorder Env touches] {clocks : Clocks Env}
    (missionSet : ∀ time env, touches env (clocks.mission.set time env).2)
    (externalSet : ∀ external ∈ clocks.external, ∀ time env,
      touches env (external.set time env).2)
    (time : Duration) (task : Timekeeper) (env : Env) :
    touches env (task.setTime clocks time env).2.2 := by
  have first := missionSet time env
  unfold setTime
  rcases answered : clocks.mission.set time env with ⟨_ | _, middle⟩
  · rw [answered] at first
    exact first
  · rw [answered] at first
    cases fitted : clocks.external with
    | none => exact first
    | some external =>
        exact IsTrans.trans _ _ _ first (externalSet external fitted time middle)

end Timekeeper

namespace Deployment

theorem update_spared {antenna : AntennaUnit Env}
    (status : ∀ env, touches env (antenna.status env).2) (context : Context Deployment Env) :
    Spared Context.outerPart.get touches context (update antenna context).2 := by
  have readout := status context.env
  unfold update
  split
  all_goals
    rename_i answered
    rw [answered] at readout
    exact ⟨rfl, readout⟩

theorem action_spares [IsPreorder Env touches] {plan : DeploymentPlan}
    {antenna : AntennaUnit Env} (deploy : ∀ env, touches env (antenna.deploy env).2) :
    (action plan antenna).Respects (Spared Context.outerPart.get touches) := by
  refine Action.ofPure_respects fun before after executed => ?_
  unfold execute at executed
  split at executed
  · cases executed
  · cases deadline : before.state.time.addOrFault plan.retryInterval with
    | error fault =>
        rw [deadline] at executed
        cases executed
    | ok nextAttempt =>
        rw [deadline] at executed
        cases executed
        exact ⟨rfl, deploy before.env⟩

end Deployment

namespace Detumbling

theorem requestStart_spared {adcs : AdcsUnit Env}
    (start : ∀ env, touches env (adcs.startDetumbling env).2) (context : Context Detumbling Env) :
    Spared Context.outerPart.get touches context (requestStart adcs context) := by
  have asked := start context.env
  unfold requestStart
  split
  all_goals
    rename_i answered
    rw [answered] at asked
    exact ⟨rfl, asked⟩

theorem requestStop_spared {adcs : AdcsUnit Env}
    (stop : ∀ env, touches env (adcs.stop env).2) (context : Context Detumbling Env) :
    Spared Context.outerPart.get touches context (requestStop adcs context) := by
  have asked := stop context.env
  unfold requestStop
  split
  all_goals
    rename_i answered
    rw [answered] at asked
    exact ⟨rfl, asked⟩

theorem action_spares [IsPreorder Env touches] {window : DetumblingWindow}
    {adcs : AdcsUnit Env} (start : ∀ env, touches env (adcs.startDetumbling env).2)
    (stop : ∀ env, touches env (adcs.stop env).2) :
    (action window adcs).Respects (Spared Context.outerPart.get touches) := by
  refine Action.composite_respects fun member membership => ?_
  simp only [List.mem_cons, List.not_mem_nil, or_false] at membership
  rcases membership with rfl | rfl
  · refine Action.ofPure_respects fun before after executed => ?_
    cases executed
    exact requestStart_spared start before
  · refine Action.ofPure_respects fun before after executed => ?_
    cases executed
    exact requestStop_spared stop before

end Detumbling

namespace SailOpening

theorem update_confined [IsPreorder Env touches] {autoOpen : Option Duration}
    (context : Context SailOpening Env) :
    Confined Context.outerPart.get touches context (update autoOpen context).2 := by
  unfold update
  dsimp only
  split
  · exact ⟨.of_sail rfl, Std.Refl.refl _⟩
  · exact ⟨.of_persistent_eq rfl, Std.Refl.refl _⟩

theorem finishIfDone_recorded (context : Context SailOpening Env) :
    context.state.SailRecorded (finishIfDone context).state := by
  unfold finishIfDone
  split
  · exact .of_sail rfl
  · exact .of_persistent_eq rfl

theorem perform_confined [IsPreorder Env touches] {power : PowerUnit Env}
    (operate : ∀ operation env, touches env (power.operate operation env).2)
    (steps : List SailStep) {before after : Context SailOpening Env}
    (performed : perform power steps before = .ok after) :
    Confined Context.outerPart.get touches before after := by
  induction steps generalizing before with
  | nil =>
      cases performed
      refine ⟨finishIfDone_recorded before, ?_⟩
      simpa [Context.outerPart] using Std.Refl.refl before.env
  | cons step rest inductionHypothesis =>
      have operated := operate step.operation before.env
      rcases perform_cons_cases performed with ⟨error, middle, refused, rfl⟩ |
        ⟨nextStep, middle, answered, -, -, rfl⟩ | ⟨middle, answered, -, remainder⟩
      · rw [refused] at operated
        exact ⟨.of_persistent_eq rfl, operated⟩
      · rw [answered] at operated
        have finished := finishIfDone_recorded
          { before with
            task := { before.task with step := before.task.step + 1, nextStep }
            env := middle }
        refine ⟨finished, ?_⟩
        simpa [Context.outerPart] using operated
      · rw [answered] at operated
        have later := inductionHypothesis remainder
        exact ⟨later.state, IsTrans.trans _ _ _ operated later.env⟩

theorem action_respects [IsPreorder Env touches] {power : PowerUnit Env}
    (operate : ∀ operation env, touches env (power.operate operation env).2) :
    (action power).Respects (Confined Context.outerPart.get touches) :=
  Action.ofPure_respects fun _ _ executed => perform_confined operate _ executed

end SailOpening

namespace Broadcast

theorem action_spares [IsPreorder Env touches] {interval : Duration}
    {transmitter : Transmitter Env}
    (send : ∀ frame env, touches env (transmitter.send frame env).2) :
    (action interval transmitter).Respects (Spared Context.outerPart.get touches) := by
  refine Action.ofPure_respects fun before after executed => ?_
  cases executed
  unfold execute
  split
  · exact Std.Refl.refl _
  · rename_i frame encoded
    dsimp only
    split
    all_goals exact ⟨rfl, send frame before.env⟩

end Broadcast

namespace PeriodicPowerCycle

theorem action_spares [IsPreorder Env touches] {period : Duration}
    {scrubbing : Env → Scrubbing} {power : PowerUnit Env}
    (cycle : ∀ env, touches env (power.cycle env).2) :
    (action period scrubbing power).Respects (Spared Context.outerPart.get touches) where
  condition _ := ⟨rfl, Std.Refl.refl _⟩
  execute before _ executed := by
    cases executed
    exact ⟨rfl, cycle before.env⟩

end PeriodicPowerCycle

namespace StorageUnit

variable [IsPreorder Env touches] {storage : StorageUnit Env}

theorem save_touches (write : ∀ data env, touches env (storage.write data env).2)
    (settings : Settings) (env : Env) : touches env (storage.save settings env).2 := by
  unfold save
  rcases Image.write settings (Bytes.zeros Image.regionSize) with ⟨_ | size, buffer⟩
  · exact Std.Refl.refl _
  · have written := write (buffer.take size) env
    dsimp only
    rcases done : storage.write (buffer.take size) env with ⟨_ | _, middle⟩
    · rw [done] at written
      exact written
    · rw [done] at written
      exact written

theorem flush_touches (write : ∀ data env, touches env (storage.write data env).2)
    (state : SystemState) (env : Env) : touches env (storage.flush state env).2.2 := by
  have saved := save_touches write state.settings env
  unfold flush
  split
  · rcases done : storage.save state.settings env with ⟨_ | _, middle⟩
    · rw [done] at saved
      exact saved
    · rw [done] at saved
      exact saved
  · exact Std.Refl.refl _

end StorageUnit

end Tasks

end Cubesat
