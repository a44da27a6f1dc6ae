import Cubesat.Antenna.Deployment
import Cubesat.Attitude.Detumbling
import Cubesat.Beacon.Broadcast
import Cubesat.Clock.Timekeeper
import Cubesat.Power.Periodic
import Cubesat.Proofs.Mission.Mirror
import Cubesat.Sail.Opening
import Cubesat.Settings.Saving

/-!
The tasks of a mission cycle through a view of their devices.

A task works on its devices through their operations alone. Where these commute
with a view of the devices, so does the task.
-/

namespace Cubesat

universe u v w

section Devices

variable {Env : Type u} {Shown : Type v} (shown : Env → Shown)

structure ClockUnit.Mirrors (clock : ClockUnit Env) (image : ClockUnit Shown) : Prop where
  now : Commutes shown clock.now image.now
  set : ∀ time, Commutes shown (clock.set time) (image.set time)

structure Clocks.Mirrors (clocks : Clocks Env) (image : Clocks Shown) : Prop where
  mission : clocks.mission.Mirrors shown image.mission
  external : Option.Rel (ClockUnit.Mirrors shown) clocks.external image.external

structure AntennaUnit.Mirrors (antenna : AntennaUnit Env) (image : AntennaUnit Shown) : Prop where
  status : Commutes shown antenna.status image.status
  deploy : Commutes shown antenna.deploy image.deploy

structure AdcsUnit.Mirrors (adcs : AdcsUnit Env) (image : AdcsUnit Shown) : Prop where
  mode : ∀ env, image.mode (shown env) = adcs.mode env
  startDetumbling : Commutes shown adcs.startDetumbling image.startDetumbling
  stop : Commutes shown adcs.stop image.stop

structure PowerUnit.Mirrors (power : PowerUnit Env) (image : PowerUnit Shown) : Prop where
  operate : ∀ operation, Commutes shown (power.operate operation) (image.operate operation)
  cycle : Commutes shown power.cycle image.cycle

structure StorageUnit.Mirrors (storage : StorageUnit Env) (image : StorageUnit Shown) : Prop where
  fetch : ∀ buffer, Commutes shown (storage.fetch buffer) (image.fetch buffer)
  write : ∀ data, Commutes shown (storage.write data) (image.write data)

end Devices

section Reached

variable {Whole : Type u} {View : Type v} {Env : Type w} {shown : Whole → View}
  {lens : Lens Whole Env} {image : Lens View Env} (fits : lens.Fits shown id image)

include fits

theorem Lens.Fits.lift_same {Answer : Type} (operation : Env → Answer × Env) :
    Commutes shown (lens.lift operation) (image.lift operation) :=
  fits.lift fun _ => rfl

theorem ClockUnit.through_mirrors (clock : ClockUnit Env) :
    (clock.through lens).Mirrors shown (clock.through image) where
  now := fits.lift_same _
  set _ := fits.lift_same _

theorem AntennaUnit.through_mirrors (antenna : AntennaUnit Env) :
    (antenna.through lens).Mirrors shown (antenna.through image) where
  status := fits.lift_same _
  deploy := fits.lift_same _

theorem AdcsUnit.through_mirrors (adcs : AdcsUnit Env) :
    (adcs.through lens).Mirrors shown (adcs.through image) where
  mode whole := congrArg adcs.mode (fits.get whole)
  startDetumbling := fits.lift_same _
  stop := fits.lift_same _

theorem PowerUnit.through_mirrors (power : PowerUnit Env) :
    (power.through lens).Mirrors shown (power.through image) where
  operate _ := fits.lift_same _
  cycle := fits.lift_same _

theorem StorageUnit.through_mirrors (storage : StorageUnit Env) :
    (storage.through lens).Mirrors shown (storage.through image) where
  fetch _ := fits.lift_same _
  write _ := fits.lift_same _

end Reached

def Context.showing {Task : Type u} {Env : Type v} {Shown : Type w} (shown : Env → Shown)
    (context : Context Task Env) : Context Task Shown :=
  { task := context.task, state := context.state, env := shown context.env }

section Tasks

variable {Env : Type u} {Shown : Type v} {shown : Env → Shown}

namespace Timekeeper

variable {clocks : Clocks Env} {image : Clocks Shown} (mirrors : clocks.Mirrors shown image)

include mirrors

theorem correct_mirrors (weights : ClockWeights) (mcu : Duration) (task : Timekeeper) (env : Env) :
    correct image weights mcu task (shown env) =
      ((correct clocks weights mcu task env).1, (correct clocks weights mcu task env).2.1,
        shown (correct clocks weights mcu task env).2.2) := by
  rcases clocks with ⟨mission, fitted⟩
  rcases image with ⟨missionImage, fittedImage⟩
  obtain ⟨missionMirrors, fittedMirrors⟩ := mirrors
  have set : ∀ time, Commutes shown (mission.set time) (missionImage.set time) :=
    missionMirrors.set
  cases fittedMirrors with
  | none => rfl
  | @some external externalImage externalMirrors =>
      simp only [correct, externalMirrors.now env]
      rcases external.now env with ⟨_ | reading, middle⟩
      · rfl
      · have resets (corrected : Duration) :
            (if corrected = mcu then shown middle
              else (missionImage.set corrected (shown middle)).2) =
                shown (if corrected = mcu then middle else (mission.set corrected middle).2) := by
          by_cases same : corrected = mcu
          · rw [if_pos same, if_pos same]
          · rw [if_neg same, if_neg same, set corrected middle]
        cases task.reference with
        | none => exact congrArg (fun env => (mcu, _, env)) (resets mcu)
        | some reference => exact congrArg (fun env => (_, _, env)) (resets _)

theorem update_mirrors : Commutes (Context.showing shown) (update clocks) (update image) := by
  intro context
  rcases context with ⟨⟨reference, pending⟩, state, env⟩
  cases pending with
  | some time => rfl
  | none =>
      simp only [update, Context.showing, mirrors.mission.now env]
      rcases clocks.mission.now env with ⟨_ | now, middle⟩
      · rfl
      · dsimp only
        by_cases behind : now < state.time
        · rw [if_pos behind]
          exact if_pos behind
        · rw [if_neg behind]
          refine (if_neg behind).trans ?_
          rw [correct_mirrors mirrors]

theorem setTime_mirrors (time : Duration) (task : Timekeeper) (env : Env) :
    task.setTime image time (shown env) =
      ((task.setTime clocks time env).1, (task.setTime clocks time env).2.1,
        shown (task.setTime clocks time env).2.2) := by
  rcases clocks with ⟨mission, fitted⟩
  rcases image with ⟨missionImage, fittedImage⟩
  obtain ⟨missionMirrors, fittedMirrors⟩ := mirrors
  have set : Commutes shown (mission.set time) (missionImage.set time) := missionMirrors.set time
  simp only [setTime, set env]
  rcases mission.set time env with ⟨_ | _, middle⟩
  · rfl
  · cases fittedMirrors with
    | none => rfl
    | some externalMirrors => simp only [externalMirrors.set time middle]

end Timekeeper

theorem Deployment.observation_mirrors {antenna : AntennaUnit Env} {image : AntennaUnit Shown}
    (mirrors : antenna.Mirrors shown image) :
    (observation antenna).Mirrors (Context.showing shown) (observation image) where
  name := rfl
  run context := by
    simp only [observation, update, Context.showing, mirrors.status context.env]
    rcases antenna.status context.env with ⟨_ | elements, middle⟩
    · rfl
    · rfl

theorem Deployment.action_mirrors (plan : DeploymentPlan) {antenna : AntennaUnit Env}
    {image : AntennaUnit Shown} (mirrors : antenna.Mirrors shown image) :
    (action plan antenna).Mirrors (Context.showing shown) (action plan image) := by
  refine Action.Mirrors.ofPure (fun _ => rfl) fun context => ?_
  simp only [execute, Context.showing, mirrors.deploy context.env]
  split
  · rfl
  · cases context.state.time.addOrFault plan.retryInterval with
    | error fault => rfl
    | ok nextAttempt => rfl

theorem Detumbling.observation_mirrors {adcs : AdcsUnit Env} {image : AdcsUnit Shown}
    (mirrors : adcs.Mirrors shown image) :
    (observation adcs).Mirrors (Context.showing shown) (observation image) where
  name := rfl
  run context := by
    simp only [observation, update, Context.showing, mirrors.mode]

theorem Detumbling.action_mirrors (window : DetumblingWindow) {adcs : AdcsUnit Env}
    {image : AdcsUnit Shown} (mirrors : adcs.Mirrors shown image) :
    (action window adcs).Mirrors (Context.showing shown) (action window image) := by
  refine .composite _ (.cons ?start (.cons ?stop .nil))
  case start =>
    refine Action.Mirrors.ofPure (fun _ => rfl) fun context => ?_
    simp only [requestStart, Context.showing, mirrors.startDetumbling context.env]
    rcases adcs.startDetumbling context.env with ⟨_ | _, middle⟩
    · rfl
    · rfl
  case stop =>
    refine Action.Mirrors.ofPure (fun _ => rfl) fun context => ?_
    simp only [requestStop, Context.showing, mirrors.stop context.env]
    rcases adcs.stop context.env with ⟨_ | _, middle⟩
    · rfl
    · rfl

namespace SailOpening

theorem observation_mirrors (autoOpen : Option Duration) :
    (observation autoOpen : Update (Context SailOpening Env)).Mirrors (Context.showing shown)
      (observation autoOpen) where
  name := rfl
  run context := by
    simp only [observation, update, Context.showing]

theorem perform_mirrors {power : PowerUnit Env} {image : PowerUnit Shown}
    (mirrors : power.Mirrors shown image) (steps : List SailStep)
    (context : Context SailOpening Env) :
    perform image steps (context.showing shown) =
      (perform power steps context).map (Context.showing shown) := by
  have finished (context : Context SailOpening Env) :
      finishIfDone (context.showing shown) = (finishIfDone context).showing shown := by
    by_cases done : SailStep.sequence.length ≤ context.task.step
    · rw [show finishIfDone context = _ from if_pos done]
      exact if_pos done
    · rw [show finishIfDone context = context from if_neg done]
      exact if_neg done
  induction steps generalizing context with
  | nil => exact congrArg Except.ok (finished context)
  | cons step rest inductionHypothesis =>
      have operated := mirrors.operate step.operation context.env
      simp only [perform]
      rw [show (context.showing shown).env = shown context.env from rfl, operated]
      rcases power.operate step.operation context.env with ⟨_ | _, middle⟩
      · rfl
      · dsimp only
        split
        · rw [show (context.showing shown).state = context.state from rfl]
          cases context.state.time.addOrFault step.delayAfter with
          | error fault => rfl
          | ok nextStep =>
              exact congrArg Except.ok (finished { context with
                task := { context.task with step := context.task.step + 1, nextStep }
                env := middle })
        · exact inductionHypothesis { context with
            task := { context.task with step := context.task.step + 1 }
            env := middle }

theorem action_mirrors {power : PowerUnit Env} {image : PowerUnit Shown}
    (mirrors : power.Mirrors shown image) :
    (action power).Mirrors (Context.showing shown) (action image) :=
  .ofPure (fun _ => rfl) fun _ => perform_mirrors mirrors _ _

end SailOpening

theorem Broadcast.action_mirrors (interval : Duration) {transmitter : Transmitter Env}
    {image : Transmitter Shown}
    (send : ∀ frame, Commutes shown (transmitter.send frame) (image.send frame)) :
    (action interval transmitter).Mirrors (Context.showing shown) (action interval image) := by
  refine Action.Mirrors.ofPure (fun _ => rfl) fun context => congrArg Except.ok ?_
  unfold execute
  rw [show (context.showing shown).state = context.state from rfl]
  split
  · rfl
  · rename_i frame encoded
    rw [show (context.showing shown).env = shown context.env from rfl, send frame context.env]
    dsimp only
    split
    · rfl
    · rfl

theorem PeriodicPowerCycle.action_mirrors (period : Duration) {scrubbing : Env → Scrubbing}
    {scrubbingImage : Shown → Scrubbing} {power : PowerUnit Env} {image : PowerUnit Shown}
    (same : ∀ env, scrubbingImage (shown env) = scrubbing env)
    (mirrors : power.Mirrors shown image) :
    (action period scrubbing power).Mirrors (Context.showing shown)
      (action period scrubbingImage image) where
  name := rfl
  condition context := by
    simp only [action, condition, Context.showing, same]
  execute context := by
    simp only [action, execute, Context.showing, mirrors.cycle context.env]
    rfl

namespace StorageUnit

def showing (shown : Env → Shown) (part : SystemState × Env) : SystemState × Shown :=
  (part.1, shown part.2)

variable {storage : StorageUnit Env} {image : StorageUnit Shown}
  (mirrors : storage.Mirrors shown image)

include mirrors

theorem save_mirrors (settings : Settings) :
    Commutes shown (storage.save settings) (image.save settings) := by
  intro env
  unfold save
  rcases Image.write settings (Bytes.zeros Image.regionSize) with ⟨_ | size, buffer⟩
  · rfl
  · dsimp only
    rw [mirrors.write (buffer.take size) env]
    rcases storage.write (buffer.take size) env with ⟨_ | _, middle⟩
    · rfl
    · rfl

theorem flush_mirrors : Commutes (showing shown) (fun part => storage.flush part.1 part.2)
    (fun part => image.flush part.1 part.2) := by
  intro part
  rcases part with ⟨state, env⟩
  cases modified : state.persistent.modified with
  | false => simp only [flush, showing, modified, Bool.false_eq_true, if_false]
  | true =>
      simp only [flush, showing, modified, if_true, save_mirrors mirrors state.settings env]
      rcases storage.save state.settings env with ⟨_ | _, middle⟩
      · rfl
      · rfl

theorem saveAction_mirrors : storage.saveAction.Mirrors (showing shown) image.saveAction :=
  .ofPure (fun _ => rfl) fun part =>
    congrArg (fun done => Except.ok done.2) (flush_mirrors mirrors part)

end StorageUnit

end Tasks

end Cubesat
