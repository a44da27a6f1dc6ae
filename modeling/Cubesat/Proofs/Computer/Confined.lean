import Cubesat.Proofs.Computer.Aside
import Cubesat.Proofs.Computer.Surroundings

/-!
What a flight computer leaves as it is before it comes to saving.

Updates and conditions reach no further than the devices. The actions ahead of
saving may power cycle the computer too, but do not write to storage; neither
does a poll.
-/

namespace Cubesat

universe u

open Surroundings

variable {Devices : Type u} (hardware : Hardware Devices)

namespace Hardware

theorem units_untouched : hardware.onMemory.UnitsRespect Untouched where
  missionNow _ := untouched_lift _ _
  missionSet _ _ := untouched_lift _ _
  externalNow external fitted _ := by
    obtain ⟨clock, -, rfl⟩ := Option.map_eq_some_iff.mp fitted
    exact untouched_lift _ _
  externalSet external fitted _ _ := by
    obtain ⟨clock, -, rfl⟩ := Option.map_eq_some_iff.mp fitted
    exact untouched_lift _ _
  status _ := untouched_lift _ _
  deploy _ := untouched_lift _ _
  startDetumbling _ := untouched_lift _ _
  stop _ := untouched_lift _ _

theorem link_unsaved : hardware.onMemory.LinkRespects Unsaved where
  write _ _ _ := (untouched_lift _ _).unsaved
  fetch _ _ _ := (untouched_lift _ _).unsaved
  pause _ _ := ⟨rfl, rfl, 0, rfl⟩
  cycle := unsaved_cutPower hardware.power

end Hardware

namespace Computer

abbrev Along (touches : Surroundings Devices → Surroundings Devices → Prop) :
    Computer (Surroundings Devices) → Computer (Surroundings Devices) → Prop :=
  Confined storagePart.get touches

theorem Along.modified {touches : Surroundings Devices → Surroundings Devices → Prop}
    {before after : Computer (Surroundings Devices)} (along : Along touches before after)
    (modified : before.state.persistent.modified = true) :
    after.state.persistent.modified = true := by
  rcases along.state.noted with same | marked
  · exact (congrArg PersistentState.modified same).trans modified
  · exact marked

theorem Aside.along {touches : Surroundings Devices → Surroundings Devices → Prop}
    {before after : Computer (Surroundings Devices)} (aside : Aside touches before after) :
    Along touches before after :=
  ⟨.of_persistent_eq aside.persistent, aside.env⟩

theorem setTime_along (time : Duration) (computer : Computer (Surroundings Devices)) :
    Along Untouched computer (computer.setTime hardware.onMemory time).2 :=
  (setTime_aside hardware.units_untouched time computer).along

theorem updates_along (config : MissionConfig) (limit : ErrorLimit)
    (update : Update (Computer (Surroundings Devices)))
    (membership : update ∈ (schedule hardware.onMemory config limit).updates)
    (computer : Computer (Surroundings Devices)) :
    Along Untouched computer (update.run computer).2 := by
  rw [updates_eq, List.mem_append, List.mem_singleton] at membership
  rcases membership with ahead | rfl
  · exact (observations_aside hardware.units_untouched config limit update ahead computer).along
  · have confined : Confined Context.outerPart.get Untouched (sailPart.get computer)
        (SailOpening.update config.sailAutoOpen (sailPart.get computer)).2 :=
      SailOpening.update_confined (sailPart.get computer)
    exact ⟨confined.state, confined.env⟩

theorem deployment_untouched (plan : DeploymentPlan) :
    ((Deployment.action plan hardware.onMemory.antenna).through deploymentPart).Respects
      (Along Untouched) :=
  (deployment_respects hardware.units_untouched plan).mono Aside.along

theorem detumbling_untouched (window : DetumblingWindow) :
    ((Detumbling.action window hardware.onMemory.adcs).through detumblingPart).Respects
      (Along Untouched) :=
  (detumbling_respects hardware.units_untouched window).mono Aside.along

theorem sail_untouched :
    ((SailOpening.action hardware.onMemory.power).through sailPart).Respects
      (Along Untouched) := by
  exact Action.through_respects (fun _ _ confined => ⟨confined.state, confined.env⟩)
    (SailOpening.action_respects fun _ _ => untouched_lift _ _)

theorem conditions_along (config : MissionConfig) (limit : ErrorLimit)
    (action : Action (Computer (Surroundings Devices)))
    (membership : action ∈ (schedule hardware.onMemory config limit).actions)
    (computer : Computer (Surroundings Devices)) :
    Along Untouched computer (action.condition computer).2 := by
  simp only [schedule, List.mem_cons, List.not_mem_nil, or_false] at membership
  rcases membership with rfl | rfl | rfl | rfl | rfl | rfl
  · exact ⟨.of_persistent_eq rfl, Std.Refl.refl _⟩
  · exact (detumbling_untouched hardware config.detumbling).condition computer
  · exact ⟨.of_persistent_eq rfl, Std.Refl.refl _⟩
  · exact ⟨.of_persistent_eq rfl, Std.Refl.refl _⟩
  · exact ⟨.of_persistent_eq rfl, Std.Refl.refl _⟩
  · exact ⟨.of_persistent_eq rfl, Std.Refl.refl _⟩

/-- Every action ahead of saving leaves storage as it is. -/
theorem executions_along (config : MissionConfig) (limit : ErrorLimit)
    (action : Action (Computer (Surroundings Devices)))
    (membership : action ∈ (schedule hardware.onMemory config limit).actions.dropLast)
    (before after : Computer (Surroundings Devices))
    (executed : action.execute before = .ok after) : Along Unsaved before after := by
  simp only [schedule, List.dropLast_cons_cons, List.dropLast_singleton, List.mem_cons,
    List.not_mem_nil, or_false] at membership
  rcases membership with rfl | rfl | rfl | rfl | rfl
  · have untouched := (deployment_untouched hardware config.deployment).execute _ _ executed
    exact untouched.mono Untouched.unsaved
  · have untouched := (detumbling_untouched hardware config.detumbling).execute _ _ executed
    exact untouched.mono Untouched.unsaved
  · have untouched := (sail_untouched hardware).execute _ _ executed
    exact untouched.mono Untouched.unsaved
  · exact ((beacon_respects hardware.link_unsaved _ limit).execute _ _ executed).along
  · exact ((powerCycle_respects hardware.link_unsaved _).execute _ _ executed).along

/-- A poll leaves the shared state as it is, and storage until it saves before a reboot. -/
theorem polled_unsaved (config : MissionConfig) (computer : Computer (Surroundings Devices)) :
    Unsaved computer.env (radioPart.lift (Radio.poll (hardware.onMemory.link computer.errorLimit)
      config.securityCode) computer).2.env :=
  (polled_aside hardware.link_unsaved config computer).env

end Computer

end Cubesat
