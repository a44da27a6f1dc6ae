import Cubesat.Proofs.Computer.Run

/-!
What a power cycle finds on storage.

A flight computer that has its power cut keeps nothing but storage. Polls cut
the power after they have saved. The actions of a cycle cut it ahead of saving:
what the cycle has changed until then is lost, and that is the sail record.
-/

namespace Cubesat

universe u

open Surroundings
open MemoryStorage (recovered)

variable {Devices : Type u}

def Computer.cuts (computer : Computer (Surroundings Devices)) : List Bytes :=
  computer.env.cuts

/--
A power cycle that the computer asks for, in the turn of an action of its next
cycle or in a poll: the settings that memory holds throughout, and the region
that the power cycle finds.
-/
inductive CutsPower (hardware : Hardware Devices) (config : MissionConfig)
    (computer : Computer (Surroundings Devices)) : Settings → Bytes → Prop
  | inCycle {action : Action (Computer (Surroundings Devices))}
      {before after : Computer (Surroundings Devices)} {image : Bytes}
      (turn : (Computer.schedule hardware.onMemory config computer.errorLimit).Turn
        { computer with cycleCount := computer.cycleCount + 1 } action before)
      (executed : action.execute before = .ok after) (unchanged : after.state = before.state)
      (cut : Gained Computer.cuts before after image) :
      CutsPower hardware config computer before.state.settings image
  | inPoll {image : Bytes}
      (unchanged : (computer.poll hardware.onMemory config).2.state = computer.state)
      (cut : Gained Computer.cuts computer (computer.poll hardware.onMemory config).2 image) :
      CutsPower hardware config computer computer.state.settings image

namespace Surroundings

theorem Unsaved.grown {before after : Surroundings Devices} (unsaved : Unsaved before after) :
    Grown Surroundings.cuts before after :=
  ⟨_, unsaved.cuts.choose_spec⟩

theorem Unsaved.eq_of_gained {before after : Surroundings Devices} {image : Bytes}
    (unsaved : Unsaved before after) (gained : Gained Surroundings.cuts before after image) :
    image = before.storage.region := by
  obtain ⟨count, repeated⟩ := unsaved.cuts
  obtain ⟨fresh, grown, membership⟩ := gained
  rw [repeated] at grown
  rw [← List.append_cancel_right grown] at membership
  exact List.eq_of_mem_replicate membership

end Surroundings

theorem MemoryStorage.decode_eq_ok_iff {region : Bytes} {values : Settings}
    (size : region.length = Image.regionSize) :
    Image.decode region = .ok values ↔
      (recovered region).settings = values ∧ ∃ written, Image.decode region = .ok written := by
  rw [MemoryStorage.recovered_eq size]
  constructor
  · intro decoded
    rw [decoded]
    exact ⟨rfl, values, rfl⟩
  · rintro ⟨found, written, decoded⟩
    rw [decoded] at found
    rw [decoded, show written = values from found]

/-- There is an image on storage once anything has been saved. -/
theorem Backed.decodes_iff {start : Bytes} {computer : Computer (Surroundings Devices)}
    (backed : Backed start computer) :
    (∃ values, Image.decode computer.env.storage.region = .ok values) ↔
      computer.env.saves ≠ [] ∨ ∃ values, Image.decode start = .ok values := by
  have latest := backed.latest
  have images := backed.images
  cases saves : computer.env.saves with
  | nil =>
      rw [saves] at latest
      simp [show computer.env.storage.region = start from latest]
  | cons newest older =>
      rw [saves] at latest images
      rw [show computer.env.storage.region = newest from latest]
      simp [images newest List.mem_cons_self]

/-- A computer on storage that has never refused a write. -/
structure Steady (start : Bytes) (computer : Computer (Surroundings Devices)) : Prop where
  backed : Backed start computer
  clean : computer.state.persistent.modified = false
  working : computer.env.storage.failing = false

namespace Computer

variable (hardware : Hardware Devices)

theorem Along.cuts_eq {before after : Computer (Surroundings Devices)}
    (along : Along Untouched before after) : after.cuts = before.cuts :=
  along.env.cuts

/-- With nothing to save, a poll leaves storage as it is. -/
theorem poll_along {start : Bytes} (config : MissionConfig)
    {computer : Computer (Surroundings Devices)} (steady : Steady start computer) :
    (computer.poll hardware.onMemory config).2.state = computer.state ∧
      Unsaved computer.env (computer.poll hardware.onMemory config).2.env := by
  have polled := polled_unsaved hardware config computer
  unfold poll
  dsimp only
  split
  · exact ⟨rfl, polled⟩
  · exact ⟨rfl, polled⟩
  · have backed := steady.backed.along (polled_along hardware config computer)
    rcases flush_cases hardware backed.size with ⟨-, same⟩ | ⟨modified, -⟩ | ⟨modified, -⟩
    · rw [same]
      exact ⟨rfl, IsTrans.trans _ _ _ polled (unsaved_cutPower hardware.power _)⟩
    · have contrary := steady.clean.symm.trans modified
      contradiction
    · have contrary := steady.clean.symm.trans modified
      contradiction

/-- An action that cuts the power changes nothing in the shared state. -/
theorem execution_cut {config : MissionConfig} {limit : ErrorLimit}
    {action : Action (Computer (Surroundings Devices))}
    (membership : action ∈ (schedule hardware.onMemory config limit).actions)
    {before after : Computer (Surroundings Devices)} {image : Bytes}
    (executed : action.execute before = .ok after) (cut : Gained cuts before after image) :
    after.state = before.state ∧ image = before.env.storage.region := by
  rw [actions_eq, List.mem_append, List.mem_singleton] at membership
  rcases membership with ahead | rfl
  · have along := executions_along hardware config limit action ahead before after executed
    refine ⟨?_, Unsaved.eq_of_gained along.env cut⟩
    simp only [schedule, List.dropLast_cons_cons, List.dropLast_singleton, List.mem_cons,
      List.not_mem_nil, or_false] at ahead
    rcases ahead with rfl | rfl | rfl | rfl | rfl
    · have untouched := (deployment_untouched hardware config.deployment).execute _ _ executed
      exact absurd cut (not_gained_of_eq untouched.cuts_eq)
    · have untouched := (detumbling_untouched hardware config.detumbling).execute _ _ executed
      exact absurd cut (not_gained_of_eq untouched.cuts_eq)
    · have untouched := (sail_untouched hardware).execute _ _ executed
      exact absurd cut (not_gained_of_eq untouched.cuts_eq)
    · cases executed
      unfold Broadcast.execute
      split
      · rfl
      · dsimp only
        split
        · rfl
        · rfl
    · cases executed
      rfl
  · cases executed
    exact absurd cut (not_gained_of_eq (flush_cuts hardware before))

theorem execution_grown {config : MissionConfig} {limit : ErrorLimit}
    {action : Action (Computer (Surroundings Devices))}
    (membership : action ∈ (schedule hardware.onMemory config limit).actions)
    {before after : Computer (Surroundings Devices)}
    (executed : action.execute before = .ok after) : Grown cuts before after := by
  rw [actions_eq, List.mem_append, List.mem_singleton] at membership
  rcases membership with ahead | rfl
  · exact Unsaved.grown
      (executions_along hardware config limit action ahead before after executed).env
  · cases executed
    exact ⟨[], flush_cuts hardware before⟩

/-- Storage as every action of a cycle but saving finds it is storage at the start of the cycle. -/
theorem turn_along {config : MissionConfig} {computer before : Computer (Surroundings Devices)}
    {action : Action (Computer (Surroundings Devices))}
    (turn : (schedule hardware.onMemory config computer.errorLimit).Turn
      { computer with cycleCount := computer.cycleCount + 1 } action before) :
    Along Unsaved computer before := by
  have along := turn.along (actions_eq hardware config computer.errorLimit)
    (fun update membership state =>
      (updates_along hardware config computer.errorLimit update membership state).mono
        Untouched.unsaved)
    (fun action membership state =>
      (conditions_along hardware config computer.errorLimit action membership state).mono
        Untouched.unsaved)
    (executions_along hardware config computer.errorLimit)
  exact ⟨along.state, along.env⟩

end Computer

theorem Steady.ofSettings {persistent : PersistentState} {devices : Devices} {start region : Bytes}
    (backed : Backed start (Computer.ofSettings persistent (ready devices region)))
    (clean : persistent.modified = false) :
    Steady start (Computer.ofSettings persistent (ready devices region)) :=
  ⟨backed, clean, rfl⟩

theorem Steady.perform {hardware : Hardware Devices} {config : MissionConfig} {start : Bytes}
    {before after : Computer (Surroundings Devices)} (steady : Steady start before)
    (operation : Operation Devices) (routine : operation.IsRoutine)
    (performed : operation.perform hardware config before = .ok after) : Steady start after := by
  have backed := steady.backed.perform hardware operation performed
  cases operation with
  | cycle =>
      obtain ⟨report, ran⟩ := Operation.perform_cycle_eq_ok performed
      obtain ⟨working, clean⟩ :=
        Computer.runCycle_saves hardware steady.backed steady.working ran
      exact ⟨backed, clean, working⟩
  | poll =>
      cases performed
      have working := (Computer.poll_carries hardware start config before steady.backed).2
      obtain ⟨state, -⟩ := Computer.poll_along hardware config steady
      refine ⟨backed, ?_, working.trans steady.working⟩
      rw [state]
      exact steady.clean
  | requestSail =>
      cases performed
      exact ⟨backed, steady.clean, steady.working⟩
  | setTime time =>
      cases performed
      have untouched := (Computer.setTime_along hardware time before).env
      refine ⟨backed, steady.clean, ?_⟩
      exact (congrArg MemoryStorage.failing untouched.storage).trans steady.working
  | elapse devices =>
      cases performed
      exact ⟨backed, steady.clean, steady.working⟩
  | set setting => exact routine.elim
  | fail failing => exact routine.elim

theorem Reached.steady {hardware : Hardware Devices} {config : MissionConfig} {devices : Devices}
    {region : Bytes} {computer : Computer (Surroundings Devices)}
    (size : region.length = Image.regionSize)
    (reached : Reached hardware config Operation.IsRoutine (ready devices region) computer) :
    Steady region computer := by
  induction reached with
  | boot booted =>
      have reached : Reached hardware config Operation.IsRoutine (ready devices region) _ :=
        .boot booted
      have backed := reached.backed hardware size
      rw [Computer.boot_ready hardware size booted] at backed ⊢
      exact .ofSettings backed (MemoryStorage.modified_recovered size)
  | step _ operation routine performed inductionHypothesis =>
      exact inductionHypothesis.perform operation routine performed

/-- A power cycle finds the region as the last cycle has left it, and at most the sail is new. -/
theorem CutsPower.found {hardware : Hardware Devices} {config : MissionConfig} {start : Bytes}
    {computer : Computer (Surroundings Devices)} {settings : Settings} {image : Bytes}
    (steady : Steady start computer) (cut : CutsPower hardware config computer settings image) :
    image = computer.env.storage.region ∧
      settings = { computer.state.settings with sail := settings.sail } := by
  cases cut with
  | inCycle turn executed unchanged cut =>
      have along := Computer.turn_along hardware turn
      have found := (Computer.execution_cut hardware turn.mem executed cut).2
      refine ⟨?_, along.state.settings⟩
      exact found.trans (congrArg MemoryStorage.region along.env.storage)
  | inPoll unchanged cut =>
      have unsaved := (Computer.poll_along hardware config steady).2
      exact ⟨Surroundings.Unsaved.eq_of_gained unsaved cut, rfl⟩

/-- Every power cycle that an operation asks for happens in a cycle or in a poll. -/
theorem CutsPower.exists {hardware : Hardware Devices} {config : MissionConfig} {start : Bytes}
    {computer after : Computer (Surroundings Devices)} {operation : Operation Devices}
    {image : Bytes} (steady : Steady start computer) (routine : operation.IsRoutine)
    (performed : operation.perform hardware config computer = .ok after)
    (cut : Gained Computer.cuts computer after image) :
    ∃ settings, CutsPower hardware config computer settings image := by
  cases operation with
  | cycle =>
      obtain ⟨report, ran⟩ := Operation.perform_cycle_eq_ok performed
      obtain ⟨dispatched, executed, -, rfl⟩ := Computer.runCycle_eq_ok hardware ran
      have selected := Schedule.selectRunnable_sublist
        (Computer.schedule hardware.onMemory config computer.errorLimit).actions
        (Computer.observed hardware config computer)
      have gained : Gained Computer.cuts (Computer.prepared hardware config computer).2
          dispatched image :=
        cut.congr (Computer.prepared_along hardware config computer).cuts_eq
          (Computer.flush_cuts hardware dispatched).symm
      obtain ⟨ahead, action, later, before, next, parts, reached, done, here⟩ :=
        Schedule.exists_turn_of_gained (fun action membership _ _ =>
          Computer.execution_grown hardware (selected.subset membership)) executed gained
      have turn : (Computer.schedule hardware.onMemory config computer.errorLimit).Turn
          { computer with cycleCount := computer.cycleCount + 1 } action before :=
        ⟨ahead, later, parts, reached⟩
      have unchanged := (Computer.execution_cut hardware turn.mem done here).1
      exact ⟨before.state.settings, .inCycle turn done unchanged here⟩
  | poll =>
      cases performed
      exact ⟨_, .inPoll (Computer.poll_along hardware config steady).1 cut⟩
  | requestSail =>
      cases performed
      exact absurd cut (not_gained_of_eq rfl)
  | setTime time =>
      cases performed
      exact absurd cut (not_gained_of_eq (Computer.setTime_along hardware time computer).cuts_eq)
  | elapse devices =>
      cases performed
      exact absurd cut (not_gained_of_eq rfl)
  | set setting => exact routine.elim
  | fail failing => exact routine.elim

/--
A power cycle in a poll loses nothing. One in a cycle loses nothing just as long
as the cycle has not changed the sail record; and the region is an image then,
unless nothing has been saved and the computer has booted on something else.
-/
theorem cut_recovers_iff {hardware : Hardware Devices} {config : MissionConfig}
    {devices : Devices} {region : Bytes} {computer : Computer (Surroundings Devices)}
    (size : region.length = Image.regionSize)
    (reached : Reached hardware config Operation.IsRoutine (ready devices region) computer) :
    (∀ settings image, CutsPower hardware config computer settings image →
      ((recovered image).settings = settings ↔ settings.sail = computer.state.settings.sail) ∧
      (Image.decode image = .ok settings ↔
        settings.sail = computer.state.settings.sail ∧
          (computer.env.saves ≠ [] ∨ ∃ values, Image.decode region = .ok values))) ∧
    (∀ operation : Operation Devices, operation.IsRoutine → ∀ after,
      operation.perform hardware config computer = .ok after →
      ∀ image, Gained Computer.cuts computer after image →
        ∃ settings, CutsPower hardware config computer settings image) := by
  have steady := reached.steady size
  refine ⟨?_, ?_⟩
  · intro settings image cut
    obtain ⟨rfl, parts⟩ := cut.found steady
    have saved := steady.backed.saved steady.clean
    have found : (recovered computer.env.storage.region).settings = settings ↔
        settings.sail = computer.state.settings.sail := by
      rw [saved]
      constructor
      · intro same
        rw [same]
      · intro same
        rw [parts, same]
    refine ⟨found, ?_⟩
    rw [MemoryStorage.decode_eq_ok_iff steady.backed.size, found, steady.backed.decodes_iff]
  · intro operation routine after performed image gained
    exact CutsPower.exists steady routine performed gained

namespace MemoryStorage

def initialRegion : Bytes :=
  overwritten (Image.encode .initial) (erased Image.regionSize).region

theorem length_initialRegion : initialRegion.length = Image.regionSize := by
  have size : (erased Image.regionSize).region.length = Image.regionSize := List.length_replicate
  have room : (Image.encode .initial).length ≤ (erased Image.regionSize).region.length := by
    rw [size]
    exact Image.length_encode_le_regionSize .initial
  exact (length_overwritten room).trans size

theorem decode_initialRegion : Image.decode initialRegion = .ok .initial :=
  Image.decode_encode_append _ _

theorem recovered_initialRegion : recovered initialRegion = .initial :=
  recovered_overwritten List.length_replicate

end MemoryStorage

open MemoryStorage (initialRegion)

def MissionConfig.restless : MissionConfig :=
  { MissionConfig.standard with powerCycleSeconds := 10 }

namespace Computer

def bothDue : Computer (Surroundings Bench) :=
  { ofSettings .initial
      (ready { Bench.fresh with clock := .ofSeconds 10 } initialRegion) with
    cycleCount := 1
    sail := { SailOpening.start with requested := true }
    powerCycle := { bootTime := some .zero } }

def bothDueOpening : Computer (Surroundings Bench) :=
  { bothDue with
    cycleCount := 2
    state :=
      { SystemState.initial.set (.sail .opening) with time := .ofSeconds 10, sail := .opening }
    sail := { step := 1, nextStep := .ofSeconds 12, inProgress := true, requested := false }
    env :=
      { bothDue.env with
        devices :=
          { bothDue.env.devices with
            eps :=
              { SimulatedEps.idle with operations := [⟨.thermalKnife .main, true⟩] } } } }

theorem reached_bothDue :
    Reached (Bench.hardware false) .restless Operation.IsRoutine
      (ready .fresh initialRegion) bothDue := by
  have valid : MissionConfig.restless.validate = .ok .restless := by decide
  have booted := Reached.ofSettings (Bench.hardware false) valid Operation.IsRoutine .fresh
    MemoryStorage.length_initialRegion
  rw [MemoryStorage.recovered_initialRegion] at booted
  have settled := booted.step .cycle trivial rfl
  have requested := settled.step .requestSail trivial rfl
  exact requested.step (.elapse { Bench.fresh with clock := .ofSeconds 10 }) trivial rfl

theorem cutsPower_bothDue :
    CutsPower (Bench.hardware false) .restless bothDue bothDueOpening.state.settings
      initialRegion := by
  have turn : (schedule (Bench.hardware false).onMemory .restless bothDue.errorLimit).Turn
      { bothDue with cycleCount := bothDue.cycleCount + 1 }
      ((PeriodicPowerCycle.action MissionConfig.restless.powerCyclePeriod
        (Bench.hardware false).onMemory.scrubbing (Bench.hardware false).onMemory.power).through
          powerCyclePart)
      bothDueOpening :=
    .intro [(SailOpening.action (Bench.hardware false).onMemory.power).through sailPart]
      [(Bench.hardware false).onMemory.storage.saveAction.through storagePart] rfl rfl
  exact .inCycle turn rfl rfl ⟨[_], rfl, List.mem_singleton_self _⟩

end Computer

theorem cut_recovers_iff_bothDue :
    (recovered initialRegion).settings = Computer.bothDueOpening.state.settings ↔
      Computer.bothDueOpening.state.settings.sail = Computer.bothDue.state.settings.sail :=
  ((cut_recovers_iff MemoryStorage.length_initialRegion Computer.reached_bothDue).1 _ _
    Computer.cutsPower_bothDue).1

/-- The opening that a cycle has begun is forgotten when the same cycle cuts the power. -/
theorem opening_forgotten :
    Reached (Bench.hardware false) .restless Operation.IsRoutine (ready .fresh initialRegion)
        Computer.bothDue ∧
      CutsPower (Bench.hardware false) .restless Computer.bothDue
        Computer.bothDueOpening.state.settings initialRegion ∧
      Image.decode initialRegion = .ok .initial ∧
      Computer.bothDueOpening.state.settings ≠ .initial := by
  refine ⟨Computer.reached_bothDue, Computer.cutsPower_bothDue, ?_, by decide⟩
  exact MemoryStorage.decode_initialRegion

end Cubesat
