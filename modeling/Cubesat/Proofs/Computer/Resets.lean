import Cubesat.Proofs.Computer.Opening
import Cubesat.Proofs.Computer.Run
import Mathlib.Logic.Relation

/-!
The opening of the sail across resets.

A mission goes from boot to boot on the same storage, with any hardware and any
configuration each time. Between two calls the record on storage is the one in
memory, and it says that the sail is opening whenever that is in progress. So a
boot finds an interrupted opening, and starts over; and it finds a completed
one, and leaves it at that.
-/

namespace Cubesat

universe u

open Relation (ReflTransGen)
open Surroundings
open MemoryStorage (recovered)

variable {Devices : Type u}

/-- A computer in one of the boots of a mission. -/
structure Flight (Devices : Type u) where
  hardware : Hardware Devices
  config : MissionConfig
  computer : Computer (Surroundings (Recorded Devices))

/-- Calls that leave the sail record to the opening, on storage that keeps working. -/
def Operation.IsRegular : Operation Devices → Prop
  | elapse _ => False
  | set (.sail _) => False
  | fail _ => False
  | _ => True

def Computer.among (devices : Devices) (computer : Computer (Surroundings (Recorded Devices))) :
    Computer (Surroundings (Recorded Devices)) :=
  { computer with
    env := { computer.env with devices := { computer.env.devices with devices } } }

namespace Flight

/-- What may happen next in a mission: a permitted call, a change of the devices, or a reset. -/
inductive Proceeds (permitted : Operation (Recorded Devices) → Prop) :
    Flight Devices → Flight Devices → Prop
  | call {hardware : Hardware Devices} {config : MissionConfig}
      {before after : Computer (Surroundings (Recorded Devices))}
      (operation : Operation (Recorded Devices)) (regular : operation.IsRegular)
      (allowed : permitted operation)
      (performed : operation.perform hardware.recording config before = .ok after) :
      Proceeds permitted ⟨hardware, config, before⟩ ⟨hardware, config, after⟩
  | elapse {hardware : Hardware Devices} {config : MissionConfig}
      {computer : Computer (Surroundings (Recorded Devices))} (devices : Devices) :
      Proceeds permitted ⟨hardware, config, computer⟩ ⟨hardware, config, computer.among devices⟩
  | reset {hardware : Hardware Devices} {config : MissionConfig}
      {before after : Computer (Surroundings (Recorded Devices))}
      (newHardware : Hardware Devices) (newConfig : MissionConfig)
      (booted : Computer.boot newHardware.recording.onMemory newConfig before.env = .ok after) :
      Proceeds permitted ⟨hardware, config, before⟩ ⟨newHardware, newConfig, after⟩

end Flight

def MemoryStorage.sailRecord (storage : MemoryStorage) : SailRecord :=
  (recovered storage.region).settings.sail

/--
Storage works, and a reset right now would find the sail record of memory, which
says so if the sail is opening.
-/
structure Recoverable (start : Bytes) (computer : Computer (Surroundings Devices)) : Prop where
  backed : Backed start computer
  working : computer.env.storage.failing = false
  record : computer.env.storage.sailRecord = computer.state.settings.sail
  opening : computer.sail.inProgress = true → computer.state.settings.sail = .opening

namespace Recoverable

variable {start : Bytes}

theorem of_clean {computer : Computer (Surroundings Devices)} (backed : Backed start computer)
    (working : computer.env.storage.failing = false)
    (clean : computer.state.persistent.modified = false)
    (opening : computer.sail.inProgress = true → computer.state.settings.sail = .opening) :
    Recoverable start computer :=
  ⟨backed, working, congrArg Settings.sail (backed.saved clean), opening⟩

theorem aside {before after : Computer (Surroundings Devices)}
    (recoverable : Recoverable start before) (aside : Computer.Aside Unsaved before after) :
    Recoverable start after := by
  have storage : after.env.storage = before.env.storage := aside.env.storage
  have settings : after.state.settings = before.state.settings :=
    congrArg PersistentState.settings aside.persistent
  refine ⟨recoverable.backed.along aside.along, ?_, ?_, ?_⟩
  · rw [storage]
    exact recoverable.working
  · rw [storage, settings]
    exact recoverable.record
  · rw [settings, aside.sail.inProgress]
    exact recoverable.opening

theorem flush (hardware : Hardware Devices) {computer : Computer (Surroundings Devices)}
    (recoverable : Recoverable start computer) :
    Recoverable start (computer.flush hardware.onMemory).2 := by
  obtain ⟨backed, working, record, opening⟩ := recoverable
  have carried := Computer.flush_carries hardware start computer backed
  rcases Computer.flush_cases hardware backed.size with ⟨-, same⟩ | ⟨-, -, same⟩ |
    ⟨-, -, written⟩
  · rw [same]
    exact ⟨backed, working, record, opening⟩
  · rw [same]
    exact ⟨backed, working, record, opening⟩
  · rw [written] at carried ⊢
    exact .of_clean carried.1 working rfl opening

theorem poll (hardware : Hardware Devices) (config : MissionConfig)
    {computer : Computer (Surroundings Devices)} (recoverable : Recoverable start computer) :
    Recoverable start (computer.poll hardware.onMemory config).2 := by
  have polled : Preserves (Recoverable start) computer
      (computer.poll hardware.onMemory config).2 := by
    apply Computer.poll_respects
    · intro computer recoverable
      exact recoverable.aside (Computer.polled_aside hardware.link_unsaved config computer)
    · intro computer recoverable
      exact recoverable.aside ⟨Std.Refl.refl _, rfl, Std.Refl.refl _⟩
    · intro computer recoverable
      exact recoverable.flush hardware
    · intro computer recoverable
      exact recoverable.aside ⟨Std.Refl.refl _, rfl, unsaved_cutPower hardware.power _⟩
  exact polled recoverable

theorem ofSettings {surroundings : Surroundings Devices}
    (size : surroundings.storage.region.length = Image.regionSize)
    (latest : surroundings.storage.region = surroundings.saves.headD start)
    (images : ∀ image ∈ surroundings.saves, ∃ values, Image.decode image = .ok values)
    (working : surroundings.storage.failing = false) :
    Recoverable start
      (Computer.ofSettings (recovered surroundings.storage.region) surroundings) := by
  have clean := MemoryStorage.modified_recovered size
  refine .of_clean ⟨size, fun _ => rfl, latest, images⟩ working clean ?_
  intro contrary
  cases contrary

/-- A boot finds the sail record of memory, and begins with no sequence and no request. -/
theorem boot {hardware : Hardware Devices} {config : MissionConfig}
    {before after : Computer (Surroundings Devices)} (recoverable : Recoverable start before)
    (booted : Computer.boot hardware.onMemory config before.env = .ok after) :
    Recoverable start after ∧ after.sail = .start ∧
      after.state.settings.sail = before.state.settings.sail ∧ after.env = before.env := by
  obtain ⟨⟨size, -, latest, images⟩, working, record, -⟩ := recoverable
  have restored := Computer.boot_eq hardware working size booted
  have again : Recoverable start after := by
    rw [restored]
    exact .ofSettings size latest images working
  have env : after.env = before.env := by
    rw [restored]
    rfl
  refine ⟨again, ?_, ?_, env⟩
  · rw [restored]
    rfl
  · rw [← again.record, env, record]

theorem ready {hardware : Hardware Devices} {config : MissionConfig} {devices : Devices}
    {region : Bytes} {computer : Computer (Surroundings Devices)}
    (size : region.length = Image.regionSize)
    (booted : Computer.boot hardware.onMemory config (Surroundings.ready devices region) =
      .ok computer) : Recoverable region computer := by
  have full : (Surroundings.ready devices region).storage.region.length = Image.regionSize := size
  have restored := Computer.boot_eq hardware (by rfl) full booted
  rw [restored]
  apply Recoverable.ofSettings full
  · rfl
  · intro image membership
    cases membership
  · rfl

/-- A cycle ends with the record of memory on storage. -/
theorem runCycle {hardware : Hardware Devices} {config : MissionConfig}
    {computer after : Computer (Surroundings (Recorded Devices))} {report : CycleReport}
    (recoverable : Recoverable start computer)
    (ran : computer.runCycle hardware.recording.onMemory config = .ok (report, after)) :
    Recoverable start after := by
  have backed := (Computer.runCycle_carries hardware.recording start ran recoverable.backed).1
  obtain ⟨working, clean⟩ := Computer.runCycle_saves hardware.recording recoverable.backed
    recoverable.working ran
  refine .of_clean backed working clean ?_
  have observed : (Computer.observed hardware.recording config computer).sail.inProgress = true →
      (Computer.observed hardware.recording config computer).state.settings.sail = .opening := by
    obtain ⟨-, -, started | ⟨inProgress, record⟩⟩ :=
      Computer.observed_cases hardware config computer
    · exact fun _ => started.1
    · rw [inProgress, record]
      exact recoverable.opening
  obtain ⟨idle, due⟩ := Computer.runCycle_opening hardware ran
  cases condition : Computer.openingDue hardware.recording config computer with
  | false =>
      have apart := idle condition
      rw [apart.sail.inProgress, apart.record]
      exact observed
  | true =>
      rcases (due condition).outcome with ⟨-, record⟩ | ⟨finished, -⟩
      · intro _
        rw [record]
        exact observed (SailOpening.inProgress_of_condition condition)
      · intro running
        rw [finished] at running
        contradiction

theorem perform {hardware : Hardware Devices} {config : MissionConfig}
    {before after : Computer (Surroundings (Recorded Devices))}
    (recoverable : Recoverable start before) (operation : Operation (Recorded Devices))
    (regular : operation.IsRegular)
    (performed : operation.perform hardware.recording config before = .ok after) :
    Recoverable start after := by
  have backed := recoverable.backed.perform hardware.recording operation performed
  cases operation with
  | cycle =>
      obtain ⟨report, ran⟩ := Operation.perform_cycle_eq_ok performed
      exact recoverable.runCycle ran
  | poll =>
      cases performed
      exact recoverable.poll hardware.recording config
  | requestSail =>
      cases performed
      exact ⟨backed, recoverable.working, recoverable.record, recoverable.opening⟩
  | setTime time =>
      cases performed
      have aside := Computer.setTime_aside hardware.recording.units_untouched time before
      exact recoverable.aside ⟨aside.sail, aside.persistent, aside.env.unsaved⟩
  | elapse devices => exact regular.elim
  | set setting =>
      cases performed
      cases setting with
      | sail record => exact regular.elim
      | _ => exact ⟨backed, recoverable.working, recoverable.record, recoverable.opening⟩
  | fail failing => exact regular.elim

theorem proceeds {permitted : Operation (Recorded Devices) → Prop}
    {before after : Flight Devices} (recoverable : Recoverable start before.computer)
    (proceeds : before.Proceeds permitted after) : Recoverable start after.computer := by
  cases proceeds with
  | call operation regular _ performed => exact recoverable.perform operation regular performed
  | elapse devices =>
      obtain ⟨⟨size, saved, latest, images⟩, working, record, opening⟩ := recoverable
      exact ⟨⟨size, saved, latest, images⟩, working, record, opening⟩
  | reset newHardware newConfig booted => exact (recoverable.boot booted).1

theorem reached {permitted : Operation (Recorded Devices) → Prop} {before after : Flight Devices}
    (recoverable : Recoverable start before.computer)
    (reached : ReflTransGen (Flight.Proceeds permitted) before after) :
    Recoverable start after.computer := by
  induction reached with
  | refl => exact recoverable
  | tail _ proceeds inductionHypothesis => exact inductionHypothesis.proceeds proceeds

end Recoverable

namespace Computer

variable {hardware : Hardware Devices} {config : MissionConfig}

theorem poll_apart (computer : Computer (Surroundings (Recorded Devices))) :
    Apart computer (computer.poll hardware.recording.onMemory config).2 := by
  apply poll_respects
  · intro computer
    exact (polled_aside hardware.link_silent config computer).apart
  · intro computer
    exact ⟨Std.Refl.refl _, rfl, rfl⟩
  · exact flush_apart hardware
  · intro computer
    exact ⟨Std.Refl.refl _, rfl, rfl⟩

/-- The opening moves in cycles alone, and is asked for by requests alone. -/
theorem perform_apart {before after : Computer (Surroundings (Recorded Devices))}
    (operation : Operation (Recorded Devices)) (regular : operation.IsRegular)
    (notCycle : operation ≠ .cycle) (notRequest : operation ≠ .requestSail)
    (performed : operation.perform hardware.recording config before = .ok after) :
    Apart before after := by
  cases operation with
  | cycle => contradiction
  | poll =>
      cases performed
      exact poll_apart before
  | requestSail => contradiction
  | setTime time =>
      cases performed
      exact (setTime_aside hardware.units_silent time before).apart
  | elapse devices => exact regular.elim
  | set setting =>
      cases performed
      cases setting with
      | sail record => exact regular.elim
      | _ => exact ⟨Std.Refl.refl _, rfl, rfl⟩
  | fail failing => exact regular.elim

structure Interrupted (computer : Computer (Surroundings (Recorded Devices))) : Prop where
  idle : computer.sail.inProgress = false
  record : computer.state.settings.sail = .opening

/-- The sail is on record as opened, and nobody has asked to open it since. -/
structure Completed (computer : Computer (Surroundings (Recorded Devices))) : Prop where
  idle : computer.sail.inProgress = false
  unasked : computer.sail.requested = false
  record : computer.state.settings.sail = .opened

theorem Completed.apart {before after : Computer (Surroundings (Recorded Devices))}
    (completed : Completed before) (apart : Apart before after) : Completed after where
  idle := apart.sail.inProgress.trans completed.idle
  unasked := apart.sail.requested.trans completed.unasked
  record := apart.record.trans completed.record

/-- With the sail opened and nobody asking, the opening is not even considered in a cycle. -/
theorem Completed.observed {computer : Computer (Surroundings (Recorded Devices))}
    (completed : Completed computer) :
    Completed (observed hardware.recording config computer) ∧
      (Computer.observed hardware.recording config computer).asked = computer.asked ∧
      openingDue hardware.recording config computer = false := by
  obtain ⟨unasked, asked, ⟨-, requested | unopened⟩ | ⟨inProgress, record⟩⟩ :=
    observed_cases hardware config computer
  · rw [completed.unasked] at requested
    contradiction
  · exact absurd completed.record unopened
  · have idle := inProgress.trans completed.idle
    refine ⟨⟨idle, unasked, record.trans completed.record⟩, asked, ?_⟩
    simp [openingDue, SailOpening.condition, idle]

theorem Completed.runCycle {computer after : Computer (Surroundings (Recorded Devices))}
    {report : CycleReport} (completed : Completed computer)
    (ran : computer.runCycle hardware.recording.onMemory config = .ok (report, after)) :
    Completed after ∧ after.asked = computer.asked := by
  obtain ⟨still, asked, idle⟩ := completed.observed
  have apart := (runCycle_opening hardware ran).1 idle
  exact ⟨still.apart apart, apart.asked.trans asked⟩

theorem Completed.proceeds {start : Bytes} {before after : Flight Devices}
    (completed : Completed before.computer) (recoverable : Recoverable start before.computer)
    (proceeds : before.Proceeds (· ≠ .requestSail) after) :
    Completed after.computer ∧ after.computer.asked = before.computer.asked := by
  cases proceeds with
  | call operation regular notRequest performed =>
      by_cases isCycle : operation = .cycle
      · subst isCycle
        obtain ⟨report, ran⟩ := Operation.perform_cycle_eq_ok performed
        exact completed.runCycle ran
      · have apart := perform_apart operation regular isCycle notRequest performed
        exact ⟨completed.apart apart, apart.asked⟩
  | elapse devices => exact ⟨⟨completed.idle, completed.unasked, completed.record⟩, rfl⟩
  | reset newHardware newConfig booted =>
      obtain ⟨-, sail, record, env⟩ := recoverable.boot booted
      refine ⟨⟨?_, ?_, record.trans completed.record⟩, ?_⟩
      · rw [sail]
        rfl
      · rw [sail]
        rfl
      · exact congrArg (fun env => env.devices.asked) env

theorem Completed.reached {start : Bytes} {before after : Flight Devices}
    (completed : Completed before.computer) (recoverable : Recoverable start before.computer)
    (reached : ReflTransGen (Flight.Proceeds (· ≠ .requestSail)) before after) :
    Completed after.computer ∧ after.computer.asked = before.computer.asked := by
  induction reached with
  | refl => exact ⟨completed, rfl⟩
  | tail path step inductionHypothesis =>
      obtain ⟨still, asked⟩ := inductionHypothesis
      obtain ⟨next, askedNext⟩ := still.proceeds (recoverable.reached path) step
      exact ⟨next, askedNext.trans asked⟩

theorem Interrupted.proceeds {start : Bytes} {before after : Flight Devices}
    (interrupted : Interrupted before.computer) (recoverable : Recoverable start before.computer)
    (proceeds : before.Proceeds (· ≠ .cycle) after) : Interrupted after.computer := by
  cases proceeds with
  | call operation regular notCycle performed =>
      by_cases isRequest : operation = .requestSail
      · subst isRequest
        cases performed
        exact ⟨interrupted.idle, interrupted.record⟩
      · have apart := perform_apart operation regular notCycle isRequest performed
        exact ⟨apart.sail.inProgress.trans interrupted.idle,
          apart.record.trans interrupted.record⟩
  | elapse devices => exact ⟨interrupted.idle, interrupted.record⟩
  | reset newHardware newConfig booted =>
      obtain ⟨-, sail, record, -⟩ := recoverable.boot booted
      refine ⟨?_, record.trans interrupted.record⟩
      rw [sail]
      rfl

theorem Interrupted.reached {start : Bytes} {before after : Flight Devices}
    (interrupted : Interrupted before.computer) (recoverable : Recoverable start before.computer)
    (reached : ReflTransGen (Flight.Proceeds (· ≠ .cycle)) before after) :
    Interrupted after.computer := by
  induction reached with
  | refl => exact interrupted
  | tail path step inductionHypothesis =>
      exact inductionHypothesis.proceeds (recoverable.reached path) step

end Computer

namespace Flight

def observed (flight : Flight Devices) : Computer (Surroundings (Recorded Devices)) :=
  Computer.observed flight.hardware.recording flight.config flight.computer

def selected (flight : Flight Devices) : List String :=
  (Computer.prepared flight.hardware.recording flight.config flight.computer).1.map Action.name

def runCycle (flight : Flight Devices) :
    Except Fault (CycleReport × Computer (Surroundings (Recorded Devices))) :=
  flight.computer.runCycle flight.hardware.recording.onMemory flight.config

/-- The next cycle of the flight starts a sequence from its first step. -/
structure Restarts (flight : Flight Devices) : Prop where
  sail : flight.observed.sail =
    { step := 0, nextStep := flight.observed.state.time, inProgress := true, requested := false }
  record : flight.observed.state.settings.sail = .opening
  due : "sail.open" ∈ flight.selected
  asked : ∀ report after, flight.runCycle = .ok (report, after) →
    ∃ issued, issued ≠ [] ∧ issued <+: SailStep.operations ∧
      after.asked = flight.computer.asked ++ issued

theorem restarts_of_interrupted {flight : Flight Devices}
    (interrupted : flight.computer.Interrupted) : flight.Restarts := by
  obtain ⟨sail, record, asked⟩ :=
    Computer.observed_starts flight.hardware interrupted.idle interrupted.record
  have due : Computer.openingDue flight.hardware.recording flight.config flight.computer =
      true := by
    rw [Computer.openingDue, sail]
    simp [SailOpening.condition, Duration.le_iff]
  refine ⟨sail, record, (Computer.sail_selected_iff _ _ _).mpr due, ?_⟩
  intro report after ran
  obtain ⟨issued, nonempty, isPrefix, grown⟩ :=
    ((Computer.runCycle_opening flight.hardware ran).2 due).asked
  rw [sail, List.drop_zero] at isPrefix
  rw [asked] at grown
  exact ⟨issued, nonempty, isPrefix, grown⟩

/-- A sequence that a cycle completes asks for all that is left of the table in this cycle. -/
theorem completed_of_finished {flight : Flight Devices} {report : CycleReport}
    {after : Computer (Surroundings (Recorded Devices))}
    (ran : flight.runCycle = .ok (report, after))
    (started : flight.observed.sail.inProgress = true) (finished : after.sail.inProgress = false) :
    after.Completed ∧ after.asked =
      flight.computer.asked ++ SailStep.operations.drop flight.observed.sail.step := by
  obtain ⟨unasked, asked, -⟩ :=
    Computer.observed_cases flight.hardware flight.config flight.computer
  obtain ⟨idle, due⟩ := Computer.runCycle_opening flight.hardware ran
  cases condition : Computer.openingDue flight.hardware.recording flight.config
    flight.computer with
  | false =>
      have still := (idle condition).sail.inProgress.symm.trans finished
      rw [show (Computer.observed flight.hardware.recording flight.config
        flight.computer).sail.inProgress = true from started] at still
      contradiction
  | true =>
      have released := due condition
      rcases released.outcome with ⟨running, -⟩ | ⟨-, opened, complete⟩
      · rw [running] at finished
        contradiction
      · rw [asked] at complete
        exact ⟨⟨finished, released.requested.trans unasked, opened⟩, complete⟩

/--
An opening that a reset has interrupted starts over in the next cycle, whatever
happens before it. Once an opening has come to its end, which takes the last
operation of the table, no more operations are asked for in any boot, as long as
nobody asks to open the sail.
-/
theorem opening_survives_resets {hardware : Hardware Devices} {config : MissionConfig}
    {devices : Devices} {region : Bytes}
    {computer : Computer (Surroundings (Recorded Devices))} {flight : Flight Devices}
    (size : region.length = Image.regionSize)
    (booted : Computer.boot hardware.recording.onMemory config
      (ready { devices, asked := [], accepted := [] } region) = .ok computer)
    (reached : ReflTransGen (Proceeds fun _ => True) ⟨hardware, config, computer⟩ flight) :
    (flight.computer.sail.inProgress = true →
      ∀ newHardware newConfig rebooted,
        Computer.boot newHardware.recording.onMemory newConfig flight.computer.env =
          .ok rebooted →
        ∀ later, ReflTransGen (Proceeds (· ≠ .cycle)) ⟨newHardware, newConfig, rebooted⟩ later →
          later.Restarts) ∧
    (∀ report after, flight.runCycle = .ok (report, after) →
      flight.observed.sail.inProgress = true → after.sail.inProgress = false →
        after.asked =
          flight.computer.asked ++ SailStep.operations.drop flight.observed.sail.step ∧
        ∀ later,
          ReflTransGen (Proceeds (· ≠ .requestSail)) ⟨flight.hardware, flight.config, after⟩
            later →
          later.computer.asked = after.asked ∧ "sail.open" ∉ later.selected) := by
  have recoverable := (Recoverable.ready size booted).reached reached
  refine ⟨?_, ?_⟩
  · intro running newHardware newConfig rebooted reboot later path
    obtain ⟨again, sail, record, -⟩ := recoverable.boot reboot
    have interrupted : rebooted.Interrupted := by
      refine ⟨?_, record.trans (recoverable.opening running)⟩
      rw [sail]
      rfl
    exact restarts_of_interrupted (interrupted.reached again path)
  · intro report after ran started finished
    obtain ⟨completed, complete⟩ := completed_of_finished ran started finished
    have again : Recoverable region after := recoverable.runCycle ran
    refine ⟨complete, ?_⟩
    intro later path
    obtain ⟨still, silent⟩ := completed.reached again path
    refine ⟨silent, ?_⟩
    rw [selected, Computer.sail_selected_iff, still.observed.2.2]
    exact Bool.false_ne_true

def onBench : Computer (Surroundings (Recorded Bench)) :=
  (Computer.ofSettings (recovered (MemoryStorage.erased Image.regionSize).region)
    (ready { devices := .fresh, asked := [], accepted := [] }
      (MemoryStorage.erased Image.regionSize).region)).requestSail.2

def atTime (seconds : UInt64) (computer : Computer (Surroundings (Recorded Bench))) :
    Computer (Surroundings (Recorded Bench)) :=
  computer.among { Bench.fresh with clock := .ofSeconds seconds }

def cyclesAt (times : List UInt64) (computer : Computer (Surroundings (Recorded Bench))) :
    Except Fault (Computer (Surroundings (Recorded Bench))) :=
  times.foldlM (fun computer seconds => Operation.perform (Bench.hardware false).recording
    .standard .cycle (atTime seconds computer)) computer

theorem reached_cyclesAt {times : List UInt64}
    {before after : Computer (Surroundings (Recorded Bench))}
    (ran : cyclesAt times before = .ok after) :
    ReflTransGen (Proceeds fun _ => True) ⟨Bench.hardware false, .standard, before⟩
      ⟨Bench.hardware false, .standard, after⟩ := by
  induction times generalizing before with
  | nil =>
      cases ran
      exact .refl
  | cons seconds rest inductionHypothesis =>
      unfold cyclesAt at ran
      rw [List.foldlM_cons] at ran
      cases performed : Operation.perform (Bench.hardware false).recording .standard .cycle
          (atTime seconds before) with
      | error fault =>
          rw [performed] at ran
          cases ran
      | ok middle =>
          rw [performed] at ran
          have elapsed : Proceeds (fun _ => True) ⟨Bench.hardware false, .standard, before⟩
              ⟨Bench.hardware false, .standard, atTime seconds before⟩ :=
            .elapse _
          have cycled : Proceeds (fun _ => True)
              ⟨Bench.hardware false, .standard, atTime seconds before⟩
              ⟨Bench.hardware false, .standard, middle⟩ :=
            .call .cycle trivial trivial performed
          exact ((ReflTransGen.single elapsed).tail cycled).trans (inductionHypothesis ran)

theorem reached_onBench {times : List UInt64}
    {computer : Computer (Surroundings (Recorded Bench))}
    (ran : cyclesAt times onBench = .ok computer) (seconds : UInt64) :
    ∃ booted, Computer.boot (Bench.hardware false).recording.onMemory .standard
        (ready { devices := .fresh, asked := [], accepted := [] }
          (MemoryStorage.erased Image.regionSize).region) = .ok booted ∧
      ReflTransGen (Proceeds fun _ => True) ⟨Bench.hardware false, .standard, booted⟩
        ⟨Bench.hardware false, .standard, atTime seconds computer⟩ := by
  have valid : MissionConfig.standard.validate = .ok .standard := by decide
  have size : (MemoryStorage.erased Image.regionSize).region.length = Image.regionSize :=
    List.length_replicate
  have booted := Computer.boot_of_valid (Bench.hardware false).recording valid
    (show (ready ({ devices := .fresh, asked := [], accepted := [] } : Recorded Bench)
      (MemoryStorage.erased Image.regionSize).region).storage.failing = false from rfl) size
  refine ⟨_, booted, ?_⟩
  have requested : Proceeds (fun _ => True) ⟨Bench.hardware false, .standard, _⟩
      ⟨Bench.hardware false, .standard, onBench⟩ :=
    .call .requestSail trivial trivial rfl
  exact ((ReflTransGen.single requested).trans (reached_cyclesAt ran)).tail (.elapse _)

def completesAt (seconds : UInt64) (computer : Computer (Surroundings (Recorded Bench))) :
    Bool :=
  let before := atTime seconds computer
  let observed := Computer.observed (Bench.hardware false).recording .standard before
  match before.runCycle (Bench.hardware false).recording.onMemory .standard with
  | .error _ => false
  | .ok (_, after) =>
      before.sail.inProgress && observed.sail.inProgress && decide (observed.sail.step = 6) &&
        !after.sail.inProgress

/-- An opening before its last cycle: a reset makes it start over, the cycle completes it. -/
theorem opening_survives_resets_onBench :
    ∃ (before : Computer (Surroundings (Recorded Bench))) (report : CycleReport)
        (after rebooted : Computer (Surroundings (Recorded Bench))),
      before.sail.inProgress = true ∧
      Computer.boot (Bench.hardware true).recording.onMemory .standard before.env =
        .ok rebooted ∧
      Restarts ⟨Bench.hardware true, .standard, rebooted⟩ ∧
      before.runCycle (Bench.hardware false).recording.onMemory .standard =
        .ok (report, after) ∧
      after.sail.inProgress = false ∧
      after.asked = before.asked ++ SailStep.operations.drop 6 := by
  have size : (MemoryStorage.erased Image.regionSize).region.length = Image.regionSize :=
    List.length_replicate
  have valid : MissionConfig.standard.validate = .ok .standard := by decide
  have settles : (cyclesAt [0, 2, 122, 124] onBench).toOption.map (completesAt 244) =
      some true := by
    decide +kernel
  cases ran : cyclesAt [0, 2, 122, 124] onBench with
  | error fault =>
      rw [ran] at settles
      cases settles
  | ok computer =>
      rw [ran] at settles
      have completes : completesAt 244 computer = true := Option.some.inj settles
      unfold completesAt at completes
      rcases cycled : (atTime 244 computer).runCycle (Bench.hardware false).recording.onMemory
        .standard with fault | ⟨report, after⟩
      · simp only [cycled] at completes
        cases completes
      · simp only [cycled, Bool.and_eq_true, Bool.not_eq_true', decide_eq_true_eq] at completes
        obtain ⟨⟨⟨running, started⟩, step⟩, finished⟩ := completes
        obtain ⟨booted, boots, reached⟩ := reached_onBench ran 244
        have survives := opening_survives_resets size boots reached
        have recoverable := (Recoverable.ready size boots).reached reached
        have reboots := Computer.boot_of_valid (Bench.hardware true).recording valid
          recoverable.working recoverable.backed.size
        refine ⟨_, report, after, _, running, reboots, ?_, cycled, finished, ?_⟩
        · exact survives.1 running _ _ _ reboots _ .refl
        · rw [← step]
          exact (survives.2 report after cycled started finished).1

end Flight

end Cubesat
