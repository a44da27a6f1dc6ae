import Cubesat.Proofs.Computer.Confined
import Mathlib.Logic.Basic

/-!
Saved settings over whole runs of a flight computer.

What carries a run is that storage is backed: as long as the settings are not
marked as modified, a boot on the region would find them in memory again, and
the region is the one that the last accepted write left. Every cycle ends with
an attempt to save, so after it either nothing is left to save or the device
has refused the write.
-/

namespace Cubesat

universe u

open Surroundings
open MemoryStorage (recovered overwritten)

variable {Devices : Type u}

/-- Storage holds settings that are not marked as modified, and nothing but what was saved. -/
structure Backed (start : Bytes) (computer : Computer (Surroundings Devices)) : Prop where
  size : computer.env.storage.region.length = Image.regionSize
  saved : computer.state.persistent.modified = false →
    (recovered computer.env.storage.region).settings = computer.state.settings
  latest : computer.env.storage.region = computer.env.saves.headD start
  images : ∀ image ∈ computer.env.saves, ∃ values, Image.decode image = .ok values

/-- A run on storage stays backed, and the device keeps failing or keeps working. -/
def Carries (start : Bytes) (before after : Computer (Surroundings Devices)) : Prop :=
  Backed start before →
    Backed start after ∧ after.env.storage.failing = before.env.storage.failing

instance (start : Bytes) : IsPreorder (Computer (Surroundings Devices)) (Carries start) where
  refl _ backed := ⟨backed, rfl⟩
  trans _ _ _ early late backed :=
    ⟨(late (early backed).1).1, (late (early backed).1).2.trans (early backed).2⟩

theorem Backed.along {start : Bytes} {before after : Computer (Surroundings Devices)}
    (backed : Backed start before) (along : Computer.Along Unsaved before after) :
    Backed start after where
  size := by
    rw [show after.env.storage = before.env.storage from along.env.storage]
    exact backed.size
  saved := by
    intro clean
    rw [show after.env.storage = before.env.storage from along.env.storage]
    rcases along.state.noted with same | modified
    · have settings := congrArg PersistentState.settings same
      rw [show after.state.persistent = before.state.persistent from same] at clean
      exact (backed.saved clean).trans settings.symm
    · rw [show after.state.persistent.modified = true from modified] at clean
      contradiction
  latest := by
    rw [show after.env.storage = before.env.storage from along.env.storage,
      show after.env.saves = before.env.saves from along.env.saves]
    exact backed.latest
  images := by
    rw [show after.env.saves = before.env.saves from along.env.saves]
    exact backed.images

theorem Carries.of_along {start : Bytes} {before after : Computer (Surroundings Devices)}
    (along : Computer.Along Unsaved before after) : Carries start before after := by
  intro backed
  refine ⟨backed.along along, ?_⟩
  rw [show after.env.storage = before.env.storage from along.env.storage]

namespace Surroundings

def saved (image : Bytes) (surroundings : Surroundings Devices) : Surroundings Devices :=
  { surroundings with
    storage :=
      { surroundings.storage with region := overwritten image surroundings.storage.region }
    saves := overwritten image surroundings.storage.region :: surroundings.saves }

theorem write_eq {image : Bytes} {surroundings : Surroundings Devices}
    (room : image.length ≤ surroundings.storage.region.length) :
    surroundings.write image =
      if surroundings.storage.failing then (.error .deviceFailure, surroundings)
      else (.ok (), surroundings.saved image) := by
  unfold write MemoryStorage.write
  by_cases failing : surroundings.storage.failing = true
  · simp [failing]
  · simp [failing, Nat.not_lt.mpr room, saved, overwritten]

theorem cuts_write (image : Bytes) (surroundings : Surroundings Devices) :
    (surroundings.write image).2.cuts = surroundings.cuts := by
  unfold write
  split
  · rfl
  · rfl

end Surroundings

namespace Computer

variable (hardware : Hardware Devices)

theorem flush_cases {computer : Computer (Surroundings Devices)}
    (size : computer.env.storage.region.length = Image.regionSize) :
    (computer.state.persistent.modified = false ∧
      (computer.flush hardware.onMemory).2 = computer) ∨
    (computer.state.persistent.modified = true ∧ computer.env.storage.failing = true ∧
      (computer.flush hardware.onMemory).2 = computer) ∨
    (computer.state.persistent.modified = true ∧ computer.env.storage.failing = false ∧
      (computer.flush hardware.onMemory).2 =
        { computer with
          state := { computer.state with persistent := computer.state.persistent.markSaved }
          env := computer.env.saved (Image.encode computer.state.settings) }) := by
  have room : (Image.encode computer.state.settings).length ≤
      computer.env.storage.region.length := by
    rw [size]
    exact Image.length_encode_le_regionSize computer.state.settings
  have written := Surroundings.write_eq room
  cases modified : computer.state.persistent.modified with
  | false =>
      apply Or.inl
      refine ⟨rfl, ?_⟩
      simp [flush, storagePart, StorageUnit.flush, modified]
  | true =>
      apply Or.inr
      cases failing : computer.env.storage.failing with
      | false =>
          apply Or.inr
          rw [if_neg (by rw [failing]; decide)] at written
          have accepted : hardware.onMemory.storage.write
              (Image.encode computer.state.settings) computer.env = _ := written
          refine ⟨rfl, rfl, ?_⟩
          simp [flush, storagePart, StorageUnit.flush, modified,
            StorageUnit.save_of_accepted accepted]
      | true =>
          apply Or.inl
          rw [if_pos failing] at written
          have refused : hardware.onMemory.storage.write
              (Image.encode computer.state.settings) computer.env = _ := written
          refine ⟨rfl, rfl, ?_⟩
          simp [flush, storagePart, StorageUnit.flush, modified,
            StorageUnit.save_of_refused refused]

theorem flush_carries (start : Bytes) (computer : Computer (Surroundings Devices)) :
    Carries start computer (computer.flush hardware.onMemory).2 := by
  intro backed
  rcases flush_cases hardware backed.size with ⟨-, same⟩ | ⟨-, -, same⟩ | ⟨-, -, written⟩
  · rw [same]
    exact ⟨backed, rfl⟩
  · rw [same]
    exact ⟨backed, rfl⟩
  · rw [written]
    have room : (Image.encode computer.state.settings).length ≤
        computer.env.storage.region.length := by
      rw [backed.size]
      exact Image.length_encode_le_regionSize computer.state.settings
    refine ⟨⟨?_, ?_, rfl, ?_⟩, rfl⟩
    · exact (MemoryStorage.length_overwritten room).trans backed.size
    · intro _
      exact congrArg PersistentState.settings (MemoryStorage.recovered_overwritten backed.size)
    · intro image membership
      rcases List.mem_cons.mp membership with rfl | older
      · exact ⟨_, Image.decode_encode_append _ _⟩
      · exact backed.images image older

/-- Saving changes nothing, or writes an image and notes at most that it is written. -/
theorem flush_written (computer : Computer (Surroundings Devices)) :
    (computer.flush hardware.onMemory).2 = computer ∨
      ∃ persistent : PersistentState, persistent.settings = computer.state.settings ∧
        (computer.flush hardware.onMemory).2 =
          { computer with
            state := { computer.state with persistent }
            env := (computer.env.write (Image.encode computer.state.settings)).2 } := by
  cases modified : computer.state.persistent.modified with
  | false =>
      apply Or.inl
      simp [flush, storagePart, StorageUnit.flush, modified]
  | true =>
      apply Or.inr
      rcases written : computer.env.write (Image.encode computer.state.settings) with
        ⟨error | _, surroundings⟩
      · have refused : hardware.onMemory.storage.write
            (Image.encode computer.state.settings) computer.env = _ := written
        refine ⟨computer.state.persistent, rfl, ?_⟩
        simp [flush, storagePart, StorageUnit.flush, modified,
          StorageUnit.save_of_refused refused]
      · have accepted : hardware.onMemory.storage.write
            (Image.encode computer.state.settings) computer.env = _ := written
        refine ⟨computer.state.persistent.markSaved, rfl, ?_⟩
        simp [flush, storagePart, StorageUnit.flush, modified,
          StorageUnit.save_of_accepted accepted]

theorem flush_cuts (computer : Computer (Surroundings Devices)) :
    (computer.flush hardware.onMemory).2.env.cuts = computer.env.cuts := by
  rcases flush_written hardware computer with same | ⟨persistent, -, written⟩
  · rw [same]
  · rw [written]
    exact computer.env.cuts_write _

/-- An attempt to save leaves nothing to save, or the device has refused it. -/
theorem flush_settles {computer : Computer (Surroundings Devices)}
    (size : computer.env.storage.region.length = Image.regionSize) :
    (computer.flush hardware.onMemory).2.state.persistent.modified = false ∨
      (computer.flush hardware.onMemory).2.state.persistent.modified = true ∧
        (computer.flush hardware.onMemory).2.env.storage.failing = true := by
  rcases flush_cases hardware size with ⟨clean, same⟩ | ⟨modified, failing, same⟩ |
    ⟨-, -, written⟩
  · rw [same]
    exact Or.inl clean
  · rw [same]
    exact Or.inr ⟨modified, failing⟩
  · rw [written]
    exact Or.inl rfl

def observed (config : MissionConfig) (computer : Computer (Surroundings Devices)) :
    Computer (Surroundings Devices) :=
  (Schedule.runUpdates (schedule hardware.onMemory config computer.errorLimit).updates
    { computer with cycleCount := computer.cycleCount + 1 }).2

def prepared (config : MissionConfig) (computer : Computer (Surroundings Devices)) :
    List (Action (Computer (Surroundings Devices))) × Computer (Surroundings Devices) :=
  Schedule.selectRunnable (schedule hardware.onMemory config computer.errorLimit).actions
    (observed hardware config computer)

theorem observed_along (config : MissionConfig) (computer : Computer (Surroundings Devices)) :
    Along Untouched computer (observed hardware config computer) := by
  have updated := Schedule.runUpdates_along
    (updates_along hardware config computer.errorLimit)
    { computer with cycleCount := computer.cycleCount + 1 }
  exact ⟨updated.state, updated.env⟩

theorem prepared_along (config : MissionConfig) (computer : Computer (Surroundings Devices)) :
    Along Untouched computer (prepared hardware config computer).2 := by
  have asked := Schedule.selectRunnable_along
    (conditions_along hardware config computer.errorLimit) (observed hardware config computer)
  exact IsTrans.trans _ _ _ (observed_along hardware config computer) asked

theorem runCycle_eq_ok {config : MissionConfig} {computer after : Computer (Surroundings Devices)}
    {report : CycleReport}
    (ran : computer.runCycle hardware.onMemory config = .ok (report, after)) :
    ∃ dispatched,
      Schedule.executeAll (prepared hardware config computer).1
        (prepared hardware config computer).2 = .ok dispatched ∧
      report.executed = (prepared hardware config computer).1.map Action.name ∧
      after = (dispatched.flush hardware.onMemory).2 := by
  simp only [runCycle, Schedule.runCycle] at ran
  rcases executed : Schedule.executeAll (prepared hardware config computer).1
    (prepared hardware config computer).2 with fault | dispatched
  · simp only [prepared, observed] at executed
    rw [executed] at ran
    cases ran
  · refine ⟨dispatched, rfl, ?_⟩
    simp only [prepared, observed] at executed
    rw [executed] at ran
    cases ran
    exact ⟨rfl, rfl⟩

theorem actions_eq (config : MissionConfig) (limit : ErrorLimit) :
    (schedule hardware.onMemory config limit).actions =
      (schedule hardware.onMemory config limit).actions.dropLast ++
        [hardware.onMemory.storage.saveAction.through storagePart] := rfl

theorem saveAction_condition (computer : Computer (Surroundings Devices)) :
    ((hardware.onMemory.storage.saveAction.through storagePart).condition computer).1 =
      computer.state.persistent.modified := rfl

/-- Settings that are marked as modified at the start of a cycle are saved in it. -/
theorem save_executed {config : MissionConfig} {computer after : Computer (Surroundings Devices)}
    {report : CycleReport} (modified : computer.state.persistent.modified = true)
    (ran : computer.runCycle hardware.onMemory config = .ok (report, after)) :
    report.wasExecuted "persistent_state.save" = true := by
  obtain ⟨-, -, names, -⟩ := runCycle_eq_ok hardware ran
  have asked := Schedule.selectRunnable_along (fun action membership =>
    conditions_along hardware config computer.errorLimit action
      (List.dropLast_subset _ membership)) (observed hardware config computer)
  have due := asked.modified ((observed_along hardware config computer).modified modified)
  have selected : hardware.onMemory.storage.saveAction.through storagePart ∈
      (prepared hardware config computer).1 := by
    unfold prepared
    rw [actions_eq, Schedule.selectRunnable_concat, saveAction_condition]
    apply List.mem_append_right
    rw [if_pos due]
    exact List.mem_singleton_self _
  unfold CycleReport.wasExecuted
  rw [names]
  exact List.contains_iff_mem.mpr (List.mem_map_of_mem selected)

theorem execution_carries (start : Bytes) (config : MissionConfig) (limit : ErrorLimit)
    (action : Action (Computer (Surroundings Devices)))
    (membership : action ∈ (schedule hardware.onMemory config limit).actions)
    (before after : Computer (Surroundings Devices))
    (executed : action.execute before = .ok after) : Carries start before after := by
  rw [actions_eq, List.mem_append, List.mem_singleton] at membership
  rcases membership with ahead | rfl
  · exact .of_along (executions_along hardware config limit action ahead before after executed)
  · cases executed
    exact flush_carries hardware start before

theorem dispatched_carries (start : Bytes) {config : MissionConfig}
    {computer dispatched : Computer (Surroundings Devices)}
    (executed : Schedule.executeAll (prepared hardware config computer).1
      (prepared hardware config computer).2 = .ok dispatched) :
    Carries start computer dispatched := by
  have selected := Schedule.selectRunnable_sublist
    (schedule hardware.onMemory config computer.errorLimit).actions
    (observed hardware config computer)
  have ready : Carries start computer (prepared hardware config computer).2 :=
    .of_along ((prepared_along hardware config computer).mono Untouched.unsaved)
  have executions := Schedule.executeAll_along (fun action membership =>
    execution_carries hardware start config computer.errorLimit action
      (selected.subset membership)) executed
  exact IsTrans.trans _ _ _ ready executions

theorem runCycle_carries (start : Bytes) {config : MissionConfig}
    {computer after : Computer (Surroundings Devices)} {report : CycleReport}
    (ran : computer.runCycle hardware.onMemory config = .ok (report, after)) :
    Carries start computer after := by
  obtain ⟨dispatched, executed, -, rfl⟩ := runCycle_eq_ok hardware ran
  exact IsTrans.trans _ _ _ (dispatched_carries hardware start executed)
    (flush_carries hardware start dispatched)

/-- On storage that works, a cycle leaves nothing to save. -/
theorem runCycle_saves {start : Bytes} {config : MissionConfig}
    {computer after : Computer (Surroundings Devices)} {report : CycleReport}
    (backed : Backed start computer) (working : computer.env.storage.failing = false)
    (ran : computer.runCycle hardware.onMemory config = .ok (report, after)) :
    after.env.storage.failing = false ∧ after.state.persistent.modified = false := by
  have stillWorking := (runCycle_carries hardware start ran backed).2
  rw [working] at stillWorking
  refine ⟨stillWorking, ?_⟩
  obtain ⟨dispatched, executed, -, rfl⟩ := runCycle_eq_ok hardware ran
  have carried := (dispatched_carries hardware start executed backed).1
  rcases flush_settles hardware carried.size with clean | ⟨-, failing⟩
  · exact clean
  · rw [stillWorking] at failing
    contradiction

theorem polled_along (config : MissionConfig) (computer : Computer (Surroundings Devices)) :
    Along Unsaved computer (radioPart.lift (Radio.poll
      (hardware.onMemory.link computer.errorLimit) config.securityCode) computer).2 :=
  ⟨.of_persistent_eq rfl, polled_unsaved hardware config computer⟩

theorem poll_carries (start : Bytes) (config : MissionConfig)
    (computer : Computer (Surroundings Devices)) :
    Carries start computer (computer.poll hardware.onMemory config).2 :=
  poll_respects (fun _ => .of_along (polled_along hardware config _))
    (fun _ => .of_along ⟨.of_persistent_eq rfl, Std.Refl.refl _⟩) (flush_carries hardware start)
    (fun _ => .of_along ⟨.of_persistent_eq rfl, unsaved_cutPower hardware.power _⟩) computer

end Computer

end Cubesat
