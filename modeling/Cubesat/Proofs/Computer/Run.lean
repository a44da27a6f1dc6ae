import Cubesat.Proofs.Computer.Saving
import Cubesat.Simulator.Bench

/-!
Runs of a flight computer, from boot through any sequence of calls.

The theorem of this module is about the end of a cycle in any such run: what a
reset would load is what is in memory, or the device has refused the write and
the next cycle saves again.
-/

namespace Cubesat

universe u

open Surroundings
open MemoryStorage (recovered)

/-- What can be done to a running computer and its surroundings. -/
inductive Operation (Devices : Type u) where
  | cycle
  | poll
  | requestSail
  | setTime (time : Duration)
  /-- The devices change between two calls. -/
  | elapse (devices : Devices)
  | set (setting : Setting)
  /-- Storage starts or stops failing. -/
  | fail (failing : Bool)

variable {Devices : Type u}

namespace Operation

def perform (hardware : Hardware Devices) (config : MissionConfig) :
    Operation Devices → Computer (Surroundings Devices) →
      Except Fault (Computer (Surroundings Devices))
  | cycle, computer => (computer.runCycle hardware.onMemory config).map (·.2)
  | poll, computer => .ok (computer.poll hardware.onMemory config).2
  | requestSail, computer => .ok computer.requestSail.2
  | setTime time, computer => .ok (computer.setTime hardware.onMemory time).2
  | elapse devices, computer => .ok { computer with env := { computer.env with devices } }
  | set setting, computer => .ok (computer.set setting)
  | fail failing, computer =>
      .ok { computer with
        env := { computer.env with storage := { computer.env.storage with failing } } }

/-- Operations after which storage still works, and settings are the computer's own. -/
def IsRoutine : Operation Devices → Prop
  | set _ => False
  | fail _ => False
  | _ => True

theorem perform_cycle_eq_ok {hardware : Hardware Devices} {config : MissionConfig}
    {before after : Computer (Surroundings Devices)}
    (performed : perform hardware config cycle before = .ok after) :
    ∃ report, before.runCycle hardware.onMemory config = .ok (report, after) := by
  rcases ran : before.runCycle hardware.onMemory config with fault | ⟨report, next⟩
  · rw [perform, ran] at performed
    cases performed
  · rw [perform, ran] at performed
    cases performed
    exact ⟨report, rfl⟩

end Operation

/-- A computer that a run of permitted operations leads to, from a boot in given surroundings. -/
inductive Reached (hardware : Hardware Devices) (config : MissionConfig)
    (permitted : Operation Devices → Prop) (start : Surroundings Devices) :
    Computer (Surroundings Devices) → Prop
  | boot {computer : Computer (Surroundings Devices)}
      (booted : Computer.boot hardware.onMemory config start = .ok computer) :
      Reached hardware config permitted start computer
  | step {before after : Computer (Surroundings Devices)}
      (reached : Reached hardware config permitted start before)
      (operation : Operation Devices) (allowed : permitted operation)
      (performed : operation.perform hardware config before = .ok after) :
      Reached hardware config permitted start after

variable (hardware : Hardware Devices)

theorem Hardware.loadOrInitial_eq {surroundings : Surroundings Devices}
    (working : surroundings.storage.failing = false)
    (size : surroundings.storage.region.length = Image.regionSize) :
    hardware.onMemory.storage.loadOrInitial surroundings =
      (recovered surroundings.storage.region, surroundings) := by
  obtain ⟨devices, ⟨region, failing⟩, saves, cuts⟩ := surroundings
  have alive : failing = false := working
  have full : region.length = Image.regionSize := size
  subst alive
  have fetched : MemoryStorage.unit.fetch (Bytes.zeros Image.regionSize)
      { region, failing := false } =
      ((.ok (), region.take Image.regionSize), { region, failing := false }) := by
    simp [MemoryStorage.unit, MemoryStorage.read, Bytes.zeros, full]
  simp only [recovered, StorageUnit.loadOrInitial, StorageUnit.load, Hardware.onMemory, Lens.lift,
    storagePart, fetched]
  split <;> rfl

theorem Computer.boot_eq {config : MissionConfig} {surroundings : Surroundings Devices}
    {computer : Computer (Surroundings Devices)}
    (working : surroundings.storage.failing = false)
    (size : surroundings.storage.region.length = Image.regionSize)
    (booted : Computer.boot hardware.onMemory config surroundings = .ok computer) :
    computer = Computer.ofSettings (recovered surroundings.storage.region) surroundings := by
  obtain ⟨-, restored⟩ := Computer.boot_eq_ok_iff.mp booted
  simp only [hardware.loadOrInitial_eq working size] at restored
  exact restored

theorem Computer.boot_ready {config : MissionConfig} {devices : Devices} {region : Bytes}
    {computer : Computer (Surroundings Devices)} (size : region.length = Image.regionSize)
    (booted : Computer.boot hardware.onMemory config (ready devices region) = .ok computer) :
    computer = Computer.ofSettings (recovered region) (ready devices region) := by
  have working : (ready devices region).storage.failing = false := rfl
  have full : (ready devices region).storage.region.length = Image.regionSize := size
  have restored := Computer.boot_eq hardware working full booted
  exact restored

theorem Computer.boot_of_valid {config : MissionConfig} (valid : config.validate = .ok config)
    {surroundings : Surroundings Devices} (working : surroundings.storage.failing = false)
    (size : surroundings.storage.region.length = Image.regionSize) :
    Computer.boot hardware.onMemory config surroundings =
      .ok (Computer.ofSettings (recovered surroundings.storage.region) surroundings) := by
  simp only [Computer.boot_eq_ok_iff, hardware.loadOrInitial_eq working size]
  exact ⟨valid, trivial⟩

theorem Reached.ofSettings {config : MissionConfig} (valid : config.validate = .ok config)
    (permitted : Operation Devices → Prop) (devices : Devices) {region : Bytes}
    (size : region.length = Image.regionSize) :
    Reached hardware config permitted (ready devices region)
      (Computer.ofSettings (recovered region) (ready devices region)) := by
  have full : (ready devices region).storage.region.length = Image.regionSize := size
  have booted := Computer.boot_of_valid hardware valid (by rfl) full
  exact .boot booted

theorem Backed.perform {config : MissionConfig} {start : Bytes}
    {before after : Computer (Surroundings Devices)} (backed : Backed start before)
    (operation : Operation Devices)
    (performed : operation.perform hardware config before = .ok after) : Backed start after := by
  cases operation with
  | cycle =>
      obtain ⟨report, ran⟩ := Operation.perform_cycle_eq_ok performed
      exact (Computer.runCycle_carries hardware start ran backed).1
  | poll =>
      cases performed
      exact (Computer.poll_carries hardware start config before backed).1
  | requestSail =>
      cases performed
      exact ⟨backed.size, backed.saved, backed.latest, backed.images⟩
  | setTime time =>
      cases performed
      exact backed.along ((Computer.setTime_along hardware time before).mono Untouched.unsaved)
  | elapse devices =>
      cases performed
      exact ⟨backed.size, backed.saved, backed.latest, backed.images⟩
  | set setting =>
      cases performed
      refine ⟨backed.size, ?_, backed.latest, backed.images⟩
      intro clean
      cases clean
  | fail failing =>
      cases performed
      exact ⟨backed.size, backed.saved, backed.latest, backed.images⟩

theorem Reached.backed {config : MissionConfig} {permitted : Operation Devices → Prop}
    {devices : Devices} {region : Bytes} {computer : Computer (Surroundings Devices)}
    (size : region.length = Image.regionSize)
    (reached : Reached hardware config permitted (ready devices region) computer) :
    Backed region computer := by
  induction reached with
  | boot booted =>
      rw [Computer.boot_ready hardware size booted]
      refine ⟨size, fun _ => rfl, rfl, ?_⟩
      intro image membership
      cases membership
  | step _ operation _ performed inductionHypothesis =>
      exact inductionHypothesis.perform hardware operation performed

namespace Computer

/-- A reset right now would find the settings of memory on storage. -/
structure Kept (computer : Computer (Surroundings Devices)) : Prop where
  clean : computer.state.persistent.modified = false
  found : (recovered computer.env.storage.region).settings = computer.state.settings

/-- The device has refused to save, and the next cycle saves whatever has happened by then. -/
structure Refused (hardware : Hardware Devices) (config : MissionConfig) (start : Bytes)
    (computer : Computer (Surroundings Devices)) : Prop where
  failing : computer.env.storage.failing = true
  modified : computer.state.persistent.modified = true
  latest : computer.env.storage.region = computer.env.saves.headD start
  retried : ∀ devices failing report after,
    Computer.runCycle hardware.onMemory config
        { computer with
          env :=
            { computer.env with devices, storage := { computer.env.storage with failing } } } =
      .ok (report, after) →
    report.wasExecuted "persistent_state.save" = true

/-- After every cycle the settings are either on storage or still marked as modified. -/
theorem kept_or_refused {hardware : Hardware Devices} {config : MissionConfig} {devices : Devices}
    {region : Bytes} {before after : Computer (Surroundings Devices)} {report : CycleReport}
    (size : region.length = Image.regionSize)
    (reached : Reached hardware config (fun _ => True) (ready devices region) before)
    (ran : before.runCycle hardware.onMemory config = .ok (report, after)) :
    Xor after.Kept (after.Refused hardware config region) := by
  have ended := (reached.backed hardware size).perform hardware .cycle
    (by rw [Operation.perform, ran]; rfl)
  obtain ⟨dispatched, executed, -, rfl⟩ := runCycle_eq_ok hardware ran
  have backed := (dispatched_carries hardware region executed (reached.backed hardware size)).1
  rcases flush_settles hardware backed.size with clean | ⟨modified, failing⟩
  · apply Or.inl
    refine ⟨⟨clean, ended.saved clean⟩, ?_⟩
    intro refused
    have contrary := refused.modified
    rw [clean] at contrary
    contradiction
  · apply Or.inr
    refine ⟨⟨failing, modified, ended.latest, ?_⟩, ?_⟩
    · intro _ _ _ _ ranNext
      exact save_executed hardware (by exact modified) ranNext
    · intro kept
      have contrary := kept.clean
      rw [modified] at contrary
      contradiction

theorem kept_or_refused_erased : ∃ report after,
    Computer.runCycle (Bench.hardware false).onMemory .standard
        ((ofSettings (recovered (MemoryStorage.erased Image.regionSize).region)
          (ready .fresh (MemoryStorage.erased Image.regionSize).region)).set (.commLimit 7)) =
      .ok (report, after) ∧
    Xor after.Kept (after.Refused (Bench.hardware false) .standard
      (MemoryStorage.erased Image.regionSize).region) := by
  have size : (MemoryStorage.erased Image.regionSize).region.length = Image.regionSize :=
    List.length_replicate
  have valid : MissionConfig.standard.validate = .ok .standard := by decide
  have booted := Reached.ofSettings (Bench.hardware false) valid (fun _ => True) .fresh size
  have reached := booted.step (.set (.commLimit 7)) trivial rfl
  have returns : (Computer.runCycle (Bench.hardware false).onMemory .standard
      ((ofSettings (recovered (MemoryStorage.erased Image.regionSize).region)
        (ready .fresh (MemoryStorage.erased Image.regionSize).region)).set
          (.commLimit 7))).toOption.isSome = true := by
    decide +kernel
  rcases ran : Computer.runCycle (Bench.hardware false).onMemory .standard
      ((ofSettings (recovered (MemoryStorage.erased Image.regionSize).region)
        (ready .fresh (MemoryStorage.erased Image.regionSize).region)).set
          (.commLimit 7)) with fault | ⟨report, after⟩
  · rw [ran] at returns
    cases returns
  · exact ⟨report, after, ran, kept_or_refused size reached ran⟩

end Computer

end Cubesat
