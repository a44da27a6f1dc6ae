import Cubesat.Proofs.Computer.Saving
import Cubesat.Proofs.Sail.Log
import Cubesat.Proofs.Task.Mirror

/-!
The opening of the sail within the cycles of a flight computer.

Nothing else in a cycle asks for a switch operation or changes the sail record.
What a cycle means to the opening is one update, and one execution if a step is
due after it.
-/

namespace Cubesat

universe u

open Surroundings

variable {Devices : Type u}

def Recorded.devicesPart : Lens (Recorded Devices) Devices where
  get recorded := recorded.devices
  set devices recorded := { recorded with devices }

open Recorded in
def Hardware.recording (hardware : Hardware Devices) : Hardware (Recorded Devices) where
  bus := hardware.bus.through devicesPart
  pause millis := devicesPart.modify (hardware.pause millis)
  clocks :=
    { mission := hardware.clocks.mission.through devicesPart
      external := hardware.clocks.external.map (ClockUnit.through devicesPart) }
  antenna := hardware.antenna.through devicesPart
  adcs := hardware.adcs.through devicesPart
  power := hardware.power.recording
  storage := hardware.storage.through devicesPart
  scrubbing recorded := hardware.scrubbing recorded.devices

def Surroundings.Silent (before after : Surroundings (Recorded Devices)) : Prop :=
  after.devices.asked = before.devices.asked

instance : IsPreorder (Surroundings (Recorded Devices)) Silent where
  refl _ := rfl
  trans _ _ _ early late := Eq.trans late early

theorem Surroundings.silent_write (data : Bytes) (surroundings : Surroundings (Recorded Devices)) :
    Silent surroundings (surroundings.write data).2 := by
  unfold write
  split
  · rfl
  · rfl

namespace Hardware

variable (hardware : Hardware Devices)

theorem units_silent : hardware.recording.onMemory.UnitsRespect Silent where
  missionNow _ := rfl
  missionSet _ _ := rfl
  externalNow external fitted _ := by
    obtain ⟨recording, known, rfl⟩ := Option.map_eq_some_iff.mp fitted
    obtain ⟨clock, -, rfl⟩ := Option.map_eq_some_iff.mp known
    rfl
  externalSet external fitted _ _ := by
    obtain ⟨recording, known, rfl⟩ := Option.map_eq_some_iff.mp fitted
    obtain ⟨clock, -, rfl⟩ := Option.map_eq_some_iff.mp known
    rfl
  status _ := rfl
  deploy _ := rfl
  startDetumbling _ := rfl
  stop _ := rfl

theorem link_silent : hardware.recording.onMemory.LinkRespects Silent where
  write _ _ _ := rfl
  fetch _ _ _ := rfl
  pause _ _ := rfl
  cycle _ := rfl

theorem onMemory_power_mirrors :
    hardware.onMemory.power.Mirrors Surroundings.devices hardware.power where
  operate _ _ := rfl
  cycle _ := rfl

end Hardware

namespace Computer

def asked (computer : Computer (Surroundings (Recorded Devices))) : List SwitchOperation :=
  computer.env.devices.asked

/-- Neither the opening nor its record has moved, and no switch operation has been asked for. -/
structure Apart (before after : Computer (Surroundings (Recorded Devices))) : Prop where
  sail : before.sail.Retimed after.sail
  record : after.state.settings.sail = before.state.settings.sail
  asked : after.asked = before.asked

instance : IsPreorder (Computer (Surroundings (Recorded Devices))) Apart where
  refl _ := ⟨Std.Refl.refl _, rfl, rfl⟩
  trans _ _ _ early late :=
    ⟨IsTrans.trans _ _ _ early.sail late.sail, late.record.trans early.record,
      late.asked.trans early.asked⟩

theorem Aside.apart {before after : Computer (Surroundings (Recorded Devices))}
    (aside : Aside Silent before after) : Apart before after where
  sail := aside.sail
  record := congrArg (fun persistent => persistent.settings.sail) aside.persistent
  asked := aside.env

variable (hardware : Hardware Devices)

theorem flush_apart (computer : Computer (Surroundings (Recorded Devices))) :
    Apart computer (computer.flush hardware.recording.onMemory).2 := by
  rcases flush_written hardware.recording computer with same | ⟨persistent, settings, written⟩
  · rw [same]
    exact Std.Refl.refl _
  · rw [written]
    exact ⟨Std.Refl.refl _, congrArg Settings.sail settings, silent_write _ computer.env⟩

section Schedule

variable (config : MissionConfig) (limit : ErrorLimit)

theorem actions_around (hardware : Hardware (Surroundings Devices)) :
    (schedule hardware config limit).actions =
      (schedule hardware config limit).actions.take 2 ++
        (SailOpening.action hardware.power).through sailPart ::
          (schedule hardware config limit).actions.drop 3 := rfl

theorem ahead_names (hardware : Hardware (Surroundings Devices)) :
    ((SailOpening.action hardware.power).through sailPart).name ∉
      ((schedule hardware config limit).actions.take 2).map Action.name := by
  simp [schedule, Action.through, SailOpening.action, Deployment.action, Detumbling.action,
    Action.ofPure, Action.composite]

theorem behind_names (hardware : Hardware (Surroundings Devices)) :
    ((SailOpening.action hardware.power).through sailPart).name ∉
      ((schedule hardware config limit).actions.drop 3).map Action.name := by
  simp [schedule, Action.through, SailOpening.action, Broadcast.action,
    PeriodicPowerCycle.action, StorageUnit.saveAction, Action.ofPure]

theorem ahead_respects (action : Action (Computer (Surroundings (Recorded Devices))))
    (membership : action ∈
      (schedule hardware.recording.onMemory config limit).actions.take 2) :
    action.Respects Apart := by
  simp only [schedule, List.take_succ_cons, List.take_zero, List.mem_cons, List.not_mem_nil,
    or_false] at membership
  rcases membership with rfl | rfl
  · exact (deployment_respects hardware.units_silent config.deployment).mono Aside.apart
  · exact (detumbling_respects hardware.units_silent config.detumbling).mono Aside.apart

theorem behind_respects (action : Action (Computer (Surroundings (Recorded Devices))))
    (membership : action ∈
      (schedule hardware.recording.onMemory config limit).actions.drop 3) :
    action.Respects Apart := by
  simp only [schedule, List.drop_succ_cons, List.drop_zero, List.mem_cons, List.not_mem_nil,
    or_false] at membership
  rcases membership with rfl | rfl | rfl
  · exact (beacon_respects hardware.link_silent _ limit).mono Aside.apart
  · exact (powerCycle_respects hardware.link_silent _).mono Aside.apart
  · refine ⟨fun _ => Std.Refl.refl _, ?_⟩
    intro before after executed
    cases executed
    exact flush_apart hardware before

/-- The conditions ahead of the opening leave no note, so it is asked on what was observed. -/
theorem selectRunnable_ahead (hardware : Hardware (Surroundings Devices))
    (computer : Computer (Surroundings Devices)) :
    (Schedule.selectRunnable ((schedule hardware config limit).actions.take 2) computer).2 =
      computer := by
  have conditions (action : Action (Computer (Surroundings Devices)))
      (membership : action ∈ (schedule hardware config limit).actions.take 2)
      (computer : Computer (Surroundings Devices)) :
      computer = (action.condition computer).2 := by
    simp only [schedule, List.take_succ_cons, List.take_zero, List.mem_cons, List.not_mem_nil,
      or_false] at membership
    rcases membership with rfl | rfl
    · rfl
    · simp only [Action.through, Lens.lift, Detumbling.action, Action.composite,
        Action.anyRunnable]
      split
      · rfl
      · split
        · rfl
        · rfl
  exact (Schedule.selectRunnable_along conditions computer).symm

end Schedule

def openingDue (hardware : Hardware Devices) (config : MissionConfig)
    (computer : Computer (Surroundings Devices)) : Bool :=
  SailOpening.condition (observed hardware config computer).sail
    (observed hardware config computer).state

/-- The opening is among the actions of a cycle just when a step is due after the updates. -/
theorem sail_selected_iff (hardware : Hardware Devices) (config : MissionConfig)
    (computer : Computer (Surroundings Devices)) :
    "sail.open" ∈ (prepared hardware config computer).1.map Action.name ↔
      openingDue hardware config computer = true := by
  have selected := Schedule.name_mem_selectRunnable_iff
    (ahead_names config computer.errorLimit hardware.onMemory)
    (behind_names config computer.errorLimit hardware.onMemory)
    (observed hardware config computer)
  rw [← actions_around, selectRunnable_ahead] at selected
  exact selected

/-- The opening has performed steps in between, and may have come to its end with them. -/
structure Released (before after : Computer (Surroundings (Recorded Devices))) : Prop where
  requested : after.sail.requested = before.sail.requested
  asked : ∃ issued, issued ≠ [] ∧ issued <+: SailStep.operations.drop before.sail.step ∧
    after.asked = before.asked ++ issued
  outcome : after.sail.inProgress = true ∧
      after.state.settings.sail = before.state.settings.sail ∨
    after.sail.inProgress = false ∧ after.state.settings.sail = .opened ∧
      after.asked = before.asked ++ SailStep.operations.drop before.sail.step

theorem Released.along {start before after finish : Computer (Surroundings (Recorded Devices))}
    (released : Released before after) (early : Apart start before) (late : Apart after finish) :
    Released start finish := by
  obtain ⟨requested, asked, outcome⟩ := released
  rw [early.sail.step, early.asked, ← late.asked] at asked
  rw [early.sail.step, early.asked, early.record, ← late.asked, ← late.record,
    ← late.sail.inProgress] at outcome
  exact ⟨late.sail.requested.trans (requested.trans early.sail.requested), asked, outcome⟩

theorem execution_released {before after : Computer (Surroundings (Recorded Devices))}
    (running : before.sail.inProgress = true)
    (inside : before.sail.step < SailStep.sequence.length)
    (executed : ((SailOpening.action hardware.recording.onMemory.power).through sailPart).execute
      before = .ok after) : Released before after := by
  obtain ⟨part, done, rfl⟩ := Action.through_execute_eq_ok_iff.mp executed
  have mirrored := SailOpening.perform_mirrors hardware.recording.onMemory_power_mirrors
    (SailStep.sequence.drop before.sail.step) (sailPart.get before)
  have performed : SailOpening.execute hardware.power.recording
      ((sailPart.get before).showing Surroundings.devices) =
        .ok (part.showing Surroundings.devices) :=
    mirrored.trans (congrArg (Except.map (Context.showing Surroundings.devices)) done)
  obtain ⟨operation, issued, -, asked, isPrefix⟩ := SailOpening.execute_asked inside performed
  obtain ⟨requested, outcome⟩ := SailOpening.perform_settles done
  refine ⟨requested, ⟨operation :: issued, List.cons_ne_nil _ _, isPrefix, asked⟩, ?_⟩
  rcases outcome with ⟨inProgress, persistent⟩ | ⟨finished, opened⟩
  · apply Or.inl
    refine ⟨inProgress.trans running, ?_⟩
    exact congrArg (fun persistent => persistent.settings.sail) persistent
  · apply Or.inr
    refine ⟨finished, opened, ?_⟩
    have complete := SailOpening.perform_finished running rfl performed finished
    rw [SailStep.operations, ← List.map_drop]
    exact complete

/-- What a cycle does to the opening after its updates: nothing, unless a step is due. -/
theorem runCycle_opening {config : MissionConfig}
    {computer after : Computer (Surroundings (Recorded Devices))} {report : CycleReport}
    (ran : computer.runCycle hardware.recording.onMemory config = .ok (report, after)) :
    (openingDue hardware.recording config computer = false →
      Apart (observed hardware.recording config computer) after) ∧
    (openingDue hardware.recording config computer = true →
      Released (observed hardware.recording config computer) after) := by
  obtain ⟨dispatched, executed, -, rfl⟩ := runCycle_eq_ok hardware.recording ran
  have saved := flush_apart hardware dispatched
  have cases := Schedule.dispatch_cases
    (ahead_respects hardware config computer.errorLimit)
    (behind_respects hardware config computer.errorLimit) (fun _ => Std.Refl.refl _) executed
  rw [selectRunnable_ahead] at cases
  obtain ⟨idle, due⟩ := cases
  refine ⟨?_, ?_⟩
  · intro nothing
    exact IsTrans.trans _ _ _ (idle nothing) saved
  · intro running
    obtain ⟨before, next, early, done, late⟩ := due running
    have inProgress := early.sail.inProgress.trans (SailOpening.inProgress_of_condition running)
    have inside : before.sail.step < SailStep.sequence.length := by
      rw [early.sail.step]
      exact SailOpening.step_lt_of_condition running
    have released := execution_released hardware inProgress inside done
    exact released.along early (IsTrans.trans _ _ _ late saved)

/-- The opening is updated last, after updates that have nothing to do with it. -/
theorem observed_eq (config : MissionConfig)
    (computer : Computer (Surroundings (Recorded Devices))) :
    ∃ ahead, Apart computer ahead ∧ observed hardware.recording config computer =
      (sailPart.lift (SailOpening.update config.sailAutoOpen) ahead).2 := by
  have apart := Schedule.runUpdates_along (fun update membership computer =>
    (observations_aside hardware.units_silent config computer.errorLimit update membership
      computer).apart) { computer with cycleCount := computer.cycleCount + 1 }
  refine ⟨_, ⟨apart.sail, apart.record, apart.asked⟩, ?_⟩
  unfold observed
  rw [updates_eq, Schedule.runUpdates_concat]
  rfl

/-- An opening that is on record and not in progress starts over, whatever else holds. -/
theorem observed_starts {config : MissionConfig}
    {computer : Computer (Surroundings (Recorded Devices))}
    (idle : computer.sail.inProgress = false) (record : computer.state.settings.sail = .opening) :
    (observed hardware.recording config computer).sail =
        { step := 0
          nextStep := (observed hardware.recording config computer).state.time
          inProgress := true
          requested := false } ∧
      (observed hardware.recording config computer).state.settings.sail = .opening ∧
      (observed hardware.recording config computer).asked = computer.asked := by
  obtain ⟨ahead, apart, same⟩ := observed_eq hardware config computer
  have time := SailOpening.update_time config.sailAutoOpen (sailPart.get ahead)
  rw [same]
  rcases SailOpening.update_cases config.sailAutoOpen (sailPart.get ahead) with
    ⟨-, -, task, opening⟩ | ⟨quiet, -⟩
  · refine ⟨?_, opening, apart.asked⟩
    exact task.trans (by rw [← time]; rfl)
  · have stillIdle : (sailPart.get ahead).task.inProgress = false :=
      apart.sail.inProgress.trans idle
    have stillRecorded : (sailPart.get ahead).state.settings.sail = .opening :=
      apart.record.trans record
    rw [stillIdle, SailOpening.startsUnasked_of_opening stillRecorded] at quiet
    simp at quiet

/-- Unless it starts a sequence, an update only takes the request. -/
theorem observed_cases (config : MissionConfig)
    (computer : Computer (Surroundings (Recorded Devices))) :
    (observed hardware.recording config computer).sail.requested = false ∧
      (observed hardware.recording config computer).asked = computer.asked ∧
      ((observed hardware.recording config computer).state.settings.sail = .opening ∧
          (computer.sail.requested = true ∨ computer.state.settings.sail ≠ .opened) ∨
        (observed hardware.recording config computer).sail.inProgress =
            computer.sail.inProgress ∧
          (observed hardware.recording config computer).state.settings.sail =
            computer.state.settings.sail) := by
  obtain ⟨ahead, apart, same⟩ := observed_eq hardware config computer
  rw [same]
  rcases SailOpening.update_cases config.sailAutoOpen (sailPart.get ahead) with
    ⟨-, due, task, opening⟩ | ⟨-, task, settings⟩
  · refine ⟨congrArg SailOpening.requested task, apart.asked, Or.inl ⟨opening, ?_⟩⟩
    rcases due with requested | unasked
    · exact Or.inl (apart.sail.requested.symm.trans requested)
    · apply Or.inr
      intro opened
      have stillOpened : (sailPart.get ahead).state.settings.sail = .opened :=
        apart.record.trans opened
      rw [SailOpening.startsUnasked_of_opened stillOpened] at unasked
      contradiction
  · refine ⟨congrArg SailOpening.requested task, apart.asked, Or.inr ⟨?_, ?_⟩⟩
    · exact (congrArg SailOpening.inProgress task).trans apart.sail.inProgress
    · exact (congrArg Settings.sail settings).trans apart.record

end Computer

end Cubesat
