import Cubesat.Proofs.Bus.Streaks
import Cubesat.Proofs.Computer.Aside
import Cubesat.Simulator.Bench

/-!
The causes of power cycles.

Nothing is assumed about the devices. Beside them an account is kept of how the
transfers of the bus have ended, and of how the power system has answered when
it was asked for a power cycle. What carries a run is that every request has a
cause: an executed action, an order from the ground, or a full limit of
consecutive failures, wherever in the run these have come.
-/

namespace Cubesat

universe u

open Relation (ReflTransGen)

structure Accounts (Devices : Type u) where
  devices : Devices
  /-- How the transfers of the bus have ended, latest one first. -/
  transfers : List BusResult
  /-- The power cycles that the power system has carried out. -/
  cycles : Nat
  /-- The power cycles that it has refused. -/
  refusals : Nat

variable {Devices : Type u}

namespace Accounts

def opened (devices : Devices) : Accounts Devices :=
  { devices, transfers := [], cycles := 0, refusals := 0 }

def devicesPart : Lens (Accounts Devices) Devices where
  get accounts := accounts.devices
  set devices accounts := { accounts with devices }

def enter (result : BusResult) (accounts : Accounts Devices) : Accounts Devices :=
  { accounts with transfers := result :: accounts.transfers }

def bus (bus : Bus Devices) : Bus (Accounts Devices) where
  write address data accounts :=
    let done := devicesPart.lift (bus.write address data) accounts
    (done.1, done.2.enter done.1)
  fetch address buffer accounts :=
    let done := devicesPart.lift (bus.fetch address buffer) accounts
    (done.1, done.2.enter done.1.1)
  exchange address output buffer accounts :=
    let done := devicesPart.lift (bus.exchange address output buffer) accounts
    (done.1, done.2.enter done.1.1)

def cutPower (power : PowerUnit Devices) (accounts : Accounts Devices) :
    Except DeviceError Unit × Accounts Devices :=
  match devicesPart.lift power.cycle accounts with
  | (.ok (), later) => (.ok (), { later with cycles := later.cycles + 1 })
  | (.error error, later) => (.error error, { later with refusals := later.refusals + 1 })

structure Quiet (before after : Accounts Devices) : Prop where
  transfers : after.transfers = before.transfers
  cycles : after.cycles = before.cycles
  refusals : after.refusals = before.refusals

instance : IsPreorder (Accounts Devices) Quiet where
  refl _ := ⟨rfl, rfl, rfl⟩
  trans _ _ _ early late :=
    ⟨late.transfers.trans early.transfers, late.cycles.trans early.cycles,
      late.refusals.trans early.refusals⟩

theorem quiet_lift {Answer : Type} (operation : Devices → Answer × Devices)
    (accounts : Accounts Devices) : Quiet accounts (devicesPart.lift operation accounts).2 :=
  ⟨rfl, rfl, rfl⟩

def Steady (power : PowerUnit Devices) : Prop :=
  ∀ devices, (power.cycle devices).1 = .ok ()

structure Cut (power : PowerUnit Devices) (before after : Accounts Devices) : Prop where
  transfers : after.transfers = before.transfers
  requests : after.cycles + after.refusals = before.cycles + before.refusals + 1
  steady : Steady power → after.refusals = before.refusals

theorem cut_cutPower (power : PowerUnit Devices) (accounts : Accounts Devices) :
    Cut power accounts (cutPower power accounts).2 := by
  have answers := fun steady : Steady power => steady accounts.devices
  unfold cutPower Lens.lift
  rcases done : power.cycle (devicesPart.get accounts) with ⟨_ | _, later⟩
  · refine ⟨rfl, rfl, ?_⟩
    intro steady
    have accepted := answers steady
    rw [show power.cycle accounts.devices = _ from done] at accepted
    cases accepted
  · exact ⟨rfl, Nat.add_right_comm _ _ _, fun _ => rfl⟩

end Accounts

open Accounts

def Hardware.accounting (hardware : Hardware Devices) : Hardware (Accounts Devices) where
  bus := Accounts.bus hardware.bus
  pause millis := devicesPart.modify (hardware.pause millis)
  clocks :=
    { mission := hardware.clocks.mission.through devicesPart
      external := hardware.clocks.external.map (ClockUnit.through devicesPart) }
  antenna := hardware.antenna.through devicesPart
  adcs := hardware.adcs.through devicesPart
  power :=
    { operate := fun operation => devicesPart.lift (hardware.power.operate operation)
      cycle := cutPower hardware.power }
  storage := hardware.storage.through devicesPart
  scrubbing accounts := hardware.scrubbing accounts.devices

/--
The failures are counted as in the latest streak, and every request for a power
cycle has been ordered or is due to a streak.
-/
structure Reconciled (power : PowerUnit Devices) (limit : ErrorLimit) (ordered : Nat)
    (guarded : Guarded (Accounts Devices)) : Prop where
  counted : guarded.errors = failing guarded.env.transfers % limit.value
  explained : guarded.env.cycles + guarded.env.refusals =
    ordered + recoveries limit guarded.env.transfers
  steady : Steady power → guarded.env.refusals = 0

namespace Reconciled

variable {power : PowerUnit Devices} {limit : ErrorLimit} {ordered : Nat}
  {guarded : Guarded (Accounts Devices)}

theorem quiet (reconciled : Reconciled power limit ordered guarded)
    {later : Accounts Devices} (quiet : Quiet guarded.env later) :
    Reconciled power limit ordered { guarded with env := later } where
  counted := by
    rw [quiet.transfers]
    exact reconciled.counted
  explained := by
    rw [quiet.transfers, quiet.cycles, quiet.refusals]
    exact reconciled.explained
  steady never := quiet.refusals.trans (reconciled.steady never)

theorem cut (reconciled : Reconciled power limit ordered guarded) {later : Accounts Devices}
    (cut : Cut power guarded.env later) :
    Reconciled power limit (ordered + 1) { guarded with env := later } where
  counted := by
    rw [cut.transfers]
    exact reconciled.counted
  explained := by
    rw [cut.transfers, cut.requests, reconciled.explained]
    omega
  steady never := (cut.steady never).trans (reconciled.steady never)

theorem record (reconciled : Reconciled power limit ordered guarded) {later : Accounts Devices}
    (quiet : Quiet guarded.env later) (result : BusResult) :
    Reconciled power limit ordered
      (({ guarded with env := later.enter result } : Guarded (Accounts Devices)).record limit
        (fun accounts => (cutPower power accounts).2) result) := by
  have entered : (later.enter result).transfers = result :: guarded.env.transfers :=
    congrArg (result :: ·) quiet.transfers
  have cycles : (later.enter result).cycles = guarded.env.cycles := quiet.cycles
  have refusals : (later.enter result).refusals = guarded.env.refusals := quiet.refusals
  cases result with
  | ok done =>
      cases done
      refine { counted := ?_, explained := ?_, steady := ?_ }
      · simp [Guarded.record, entered]
      · simp only [Guarded.record, entered, cycles, refusals, recoveries_ok]
        exact reconciled.explained
      · intro never
        exact refusals.trans (reconciled.steady never)
  | error error =>
      have counted : ({ guarded with env := later.enter (.error error) } :
          Guarded (Accounts Devices)).errors = failing guarded.env.transfers % limit.value :=
        reconciled.counted
      rw [Guarded.record_error limit _ counted]
      have explained := reconciled.explained
      have triggered := recoveries_error limit error guarded.env.transfers
      by_cases due : (failing guarded.env.transfers + 1) % limit.value = 0
      · have cut := cut_cutPower power (later.enter (.error error))
        rw [if_pos due] at triggered
        simp only [if_pos due]
        refine { counted := ?_, explained := ?_, steady := ?_ }
        · simp only [cut.transfers, entered, failing_error]
        · rw [cut.requests, cut.transfers, entered, cycles, refusals, triggered]
          omega
        · intro never
          exact (cut.steady never).trans (refusals.trans (reconciled.steady never))
      · rw [if_neg due] at triggered
        simp only [if_neg due]
        refine { counted := ?_, explained := ?_, steady := ?_ }
        · simp only [entered, failing_error]
        · rw [entered, cycles, refusals, triggered]
          exact explained
        · intro never
          exact refusals.trans (reconciled.steady never)

end Reconciled

/-- Whatever has been ordered, accounts that were reconciled stay so. -/
def Reconciles (power : PowerUnit Devices) (limit : ErrorLimit)
    (before after : Guarded (Accounts Devices)) : Prop :=
  ∀ ordered, Reconciled power limit ordered before → Reconciled power limit ordered after

instance (power : PowerUnit Devices) (limit : ErrorLimit) :
    IsPreorder (Guarded (Accounts Devices)) (Reconciles power limit) where
  refl _ _ reconciled := reconciled
  trans _ _ _ early late ordered reconciled := late ordered (early ordered reconciled)

namespace Hardware

variable (hardware : Hardware Devices)

theorem units_quiet : hardware.accounting.UnitsRespect Quiet where
  missionNow _ := quiet_lift _ _
  missionSet _ _ := quiet_lift _ _
  externalNow external fitted _ := by
    obtain ⟨clock, -, rfl⟩ := Option.map_eq_some_iff.mp fitted
    exact quiet_lift _ _
  externalSet external fitted _ _ := by
    obtain ⟨clock, -, rfl⟩ := Option.map_eq_some_iff.mp fitted
    exact quiet_lift _ _
  status _ := quiet_lift _ _
  deploy _ := quiet_lift _ _
  startDetumbling _ := quiet_lift _ _
  stop _ := quiet_lift _ _

theorem touch_reconciles {limit : ErrorLimit} {before after : Guarded (Accounts Devices)}
    (touch : (hardware.accounting.link limit).Touch before after) :
    Reconciles hardware.power limit before after := by
  intro ordered reconciled
  cases touch with
  | write address data => exact reconciled.record (quiet_lift _ _) _
  | fetch address buffer => exact reconciled.record (quiet_lift _ _) _
  | pause millis => exact reconciled.quiet ⟨rfl, rfl, rfl⟩

/-- Whatever the radio does on its link, the accounts stay reconciled. -/
theorem reaches_reconciles {limit : ErrorLimit} {before after : Guarded (Accounts Devices)}
    (reaches : ReflTransGen (hardware.accounting.link limit).Touch before after) :
    Reconciles hardware.power limit before after := by
  induction reaches with
  | refl => exact Std.Refl.refl _
  | tail _ touch inductionHypothesis =>
      exact IsTrans.trans _ _ _ inductionHypothesis (hardware.touch_reconciles touch)

end Hardware

theorem StorageUnit.loadOrInitial_through {Env Whole : Type u} (lens : Lens Whole Env)
    (storage : StorageUnit Env) (whole : Whole) :
    (storage.through lens).loadOrInitial whole = lens.lift storage.loadOrInitial whole := by
  unfold loadOrInitial load through
  simp only [Lens.lift]
  rcases storage.fetch (Bytes.zeros Image.regionSize) (lens.get whole) with ⟨⟨_ | _, arrived⟩, env⟩
  · rfl
  · dsimp only
    split <;> rfl

namespace Computer

structure Explained (power : PowerUnit Devices) (limit : ErrorLimit) (ordered : Nat)
    (computer : Computer (Accounts Devices)) : Prop where
  errorLimit : computer.errorLimit = limit
  reconciled : Reconciled power limit ordered (radioPart.get computer).env

/-- Whatever has been ordered, a computer that accounts for its power cycles still does. -/
structure Accounted (power : PowerUnit Devices) (limit : ErrorLimit)
    (before after : Computer (Accounts Devices)) : Prop where
  errorLimit : after.errorLimit = before.errorLimit
  reconciles : Reconciles power limit (radioPart.get before).env (radioPart.get after).env

instance (power : PowerUnit Devices) (limit : ErrorLimit) :
    IsPreorder (Computer (Accounts Devices)) (Accounted power limit) where
  refl _ := ⟨rfl, Std.Refl.refl _⟩
  trans _ _ _ early late :=
    ⟨late.errorLimit.trans early.errorLimit, IsTrans.trans _ _ _ early.reconciles late.reconciles⟩

structure Undisturbed (before after : Computer (Accounts Devices)) : Prop where
  errorLimit : after.errorLimit = before.errorLimit
  busErrors : after.busErrors = before.busErrors
  env : Quiet before.env after.env

instance : IsPreorder (Computer (Accounts Devices)) Undisturbed where
  refl _ := ⟨rfl, rfl, Std.Refl.refl _⟩
  trans _ _ _ early late :=
    ⟨late.errorLimit.trans early.errorLimit, late.busErrors.trans early.busErrors,
      IsTrans.trans _ _ _ early.env late.env⟩

variable {power : PowerUnit Devices} {limit : ErrorLimit} {ordered : Nat}
  {before after computer : Computer (Accounts Devices)}

theorem Undisturbed.accounted (undisturbed : Undisturbed before after) :
    Accounted power limit before after where
  errorLimit := undisturbed.errorLimit
  reconciles _ reconciled := by
    have guarded : (radioPart.get after).env =
        { (radioPart.get before).env with env := after.env } :=
      congrArg (Guarded.mk after.env) undisturbed.busErrors
    rw [guarded]
    exact reconciled.quiet undisturbed.env

theorem Explained.along (explained : Explained power limit ordered before)
    (accounted : Accounted power limit before after) : Explained power limit ordered after where
  errorLimit := accounted.errorLimit.trans explained.errorLimit
  reconciled := accounted.reconciles ordered explained.reconciled

theorem Explained.cut (explained : Explained power limit ordered computer) :
    Explained power limit (ordered + 1)
      { computer with env := (cutPower power computer.env).2 } where
  errorLimit := explained.errorLimit
  reconciled := explained.reconciled.cut (cut_cutPower power computer.env)

theorem notify_undisturbed (jump : Option TimeJump) (computer : Computer (Accounts Devices)) :
    Undisturbed computer (timeObservers.notifyIf jump computer) := by
  cases jump with
  | none => exact Std.Refl.refl _
  | some jump => exact ⟨rfl, rfl, Std.Refl.refl _⟩

section Parts

variable (hardware : Hardware Devices) (config : MissionConfig)

theorem flush_undisturbed (computer : Computer (Accounts Devices)) :
    Undisturbed computer (computer.flush hardware.accounting).2 where
  errorLimit := rfl
  busErrors := rfl
  env := StorageUnit.flush_touches (fun _ _ => quiet_lift _ _) computer.state computer.env

theorem setTime_undisturbed (time : Duration) (computer : Computer (Accounts Devices)) :
    Undisturbed computer (computer.setTime hardware.accounting time).2 where
  errorLimit := rfl
  busErrors := rfl
  env := Timekeeper.setTime_touches hardware.units_quiet.missionSet
    hardware.units_quiet.externalSet time computer.timekeeper computer.env

theorem timeUpdate_undisturbed (computer : Computer (Accounts Devices)) :
    Undisturbed computer ((timeUpdate hardware.accounting.clocks).run computer).2 := by
  have units := hardware.units_quiet
  have spared := Timekeeper.update_spared units.missionNow units.missionSet units.externalNow
    (timekeeperPart.get computer)
  have updated : Undisturbed computer
      (timekeeperPart.lift (Timekeeper.update hardware.accounting.clocks) computer).2 :=
    ⟨rfl, rfl, spared.env⟩
  exact IsTrans.trans _ _ _ updated (notify_undisturbed _ _)

section Schedule

variable (limit)

theorem updates_undisturbed (update : Update (Computer (Accounts Devices)))
    (membership : update ∈ (schedule hardware.accounting config limit).updates)
    (computer : Computer (Accounts Devices)) : Undisturbed computer (update.run computer).2 := by
  simp only [schedule, List.mem_cons, List.not_mem_nil, or_false] at membership
  rcases membership with rfl | rfl | rfl | rfl
  · exact timeUpdate_undisturbed hardware computer
  · have spared := Deployment.update_spared hardware.units_quiet.status
      (deploymentPart.get computer)
    exact ⟨rfl, rfl, spared.env⟩
  · exact ⟨rfl, rfl, ⟨rfl, rfl, rfl⟩⟩
  · have confined : Confined Context.outerPart.get Quiet (sailPart.get computer)
        (SailOpening.update config.sailAutoOpen (sailPart.get computer)).2 :=
      SailOpening.update_confined (sailPart.get computer)
    exact ⟨rfl, rfl, confined.env⟩

def powerCycleAction : Action (Computer (Accounts Devices)) :=
  (PeriodicPowerCycle.action config.powerCyclePeriod hardware.accounting.scrubbing
    hardware.accounting.power).through powerCyclePart

theorem powerCycle_ahead :
    (powerCycleAction hardware config).name ∉
      ((schedule hardware.accounting config limit).actions.take 4).map Action.name := by
  simp [schedule, powerCycleAction, Action.through, PeriodicPowerCycle.action, SailOpening.action,
    Deployment.action, Detumbling.action, Broadcast.action, Action.ofPure, Action.composite]

theorem powerCycle_behind :
    (powerCycleAction hardware config).name ∉
      ((schedule hardware.accounting config limit).actions.drop 5).map Action.name := by
  simp [schedule, powerCycleAction, Action.through, PeriodicPowerCycle.action,
    StorageUnit.saveAction, Action.ofPure]

theorem beacon_accounted :
    ((Broadcast.action config.beaconInterval (hardware.accounting.transmitter limit)).through
      broadcastPart).Respects (Accounted hardware.power limit) := by
  have sending : (Broadcast.action config.beaconInterval
      (hardware.accounting.transmitter limit)).Respects
        (Spared Context.outerPart.get (Order.Preimage Radio.env
          (Reconciles hardware.power limit))) := by
    apply Broadcast.action_spares
    intro frame radio
    exact hardware.reaches_reconciles (radio.sendFrame_reaches _ frame)
  exact Action.through_respects (fun _ _ spared => ⟨rfl, spared.env⟩) sending

theorem ahead_accounted (action : Action (Computer (Accounts Devices)))
    (membership : action ∈ (schedule hardware.accounting config limit).actions.take 4) :
    action.Respects (Accounted hardware.power limit) := by
  have units := hardware.units_quiet
  simp only [schedule, List.take_succ_cons, List.take_zero, List.mem_cons, List.not_mem_nil,
    or_false] at membership
  rcases membership with rfl | rfl | rfl | rfl
  · apply Action.Respects.mono _ Undisturbed.accounted
    exact Action.through_respects (fun _ _ spared => ⟨rfl, rfl, spared.env⟩)
      (Deployment.action_spares units.deploy)
  · apply Action.Respects.mono _ Undisturbed.accounted
    exact Action.through_respects (fun _ _ spared => ⟨rfl, rfl, spared.env⟩)
      (Detumbling.action_spares units.startDetumbling units.stop)
  · apply Action.Respects.mono _ Undisturbed.accounted
    exact Action.through_respects (fun _ _ confined => ⟨rfl, rfl, confined.env⟩)
      (SailOpening.action_respects fun _ _ => quiet_lift _ _)
  · exact beacon_accounted limit hardware config

theorem behind_accounted (action : Action (Computer (Accounts Devices)))
    (membership : action ∈ (schedule hardware.accounting config limit).actions.drop 5) :
    action.Respects (Accounted hardware.power limit) := by
  simp only [schedule, List.drop_succ_cons, List.drop_zero, List.mem_cons, List.not_mem_nil,
    or_false] at membership
  subst membership
  apply Action.Respects.mono _ Undisturbed.accounted
  refine ⟨fun _ => Std.Refl.refl _, ?_⟩
  intro before after executed
  cases executed
  exact flush_undisturbed hardware before

end Schedule

/-- Dispatch accounts for one more power cycle if the action that asks for it is selected. -/
theorem Explained.dispatched {start : Computer (Accounts Devices)}
    (explained : Explained hardware.power limit ordered start)
    (executed : Schedule.executeAll
        (Schedule.selectRunnable (schedule hardware.accounting config limit).actions start).1
        (Schedule.selectRunnable (schedule hardware.accounting config limit).actions start).2 =
      .ok after) :
    Explained hardware.power limit
      (ordered + if "power_cycle" ∈ (Schedule.selectRunnable
        (schedule hardware.accounting config limit).actions start).1.map Action.name then 1 else 0)
      after := by
  have asks (computer : Computer (Accounts Devices)) : Accounted hardware.power limit computer
      ((powerCycleAction hardware config).condition computer).2 :=
    Undisturbed.accounted ⟨rfl, rfl, Std.Refl.refl _⟩
  obtain ⟨idle, due⟩ := Schedule.dispatch_cases (ahead_accounted limit hardware config)
    (behind_accounted limit hardware config) asks executed
  have listed : "power_cycle" ∈ (Schedule.selectRunnable
        (schedule hardware.accounting config limit).actions start).1.map Action.name ↔
      ((powerCycleAction hardware config).condition (Schedule.selectRunnable
        ((schedule hardware.accounting config limit).actions.take 4) start).2).1 = true :=
    Schedule.name_mem_selectRunnable_iff (powerCycle_ahead limit hardware config)
      (powerCycle_behind limit hardware config) start
  by_cases selected : "power_cycle" ∈ (Schedule.selectRunnable
    (schedule hardware.accounting config limit).actions start).1.map Action.name
  · rw [if_pos selected]
    obtain ⟨before, next, early, done, late⟩ := due (listed.mp selected)
    cases done
    exact (explained.along early).cut.along late
  · rw [if_neg selected]
    apply explained.along
    apply idle
    simpa using mt listed.mpr selected

theorem Explained.runCycle {report : CycleReport}
    (explained : Explained hardware.power limit ordered before)
    (ran : before.runCycle hardware.accounting config = .ok (report, after)) :
    Explained hardware.power limit
      (ordered + if report.wasExecuted "power_cycle" then 1 else 0) after := by
  obtain rfl := explained.errorLimit
  obtain ⟨dispatched, cycled, rfl⟩ := runCycle_dispatches ran
  obtain ⟨executed, names⟩ := Schedule.runCycle_eq_ok cycled
  have along := Schedule.runUpdates_along
    (updates_undisturbed before.errorLimit hardware config)
    { before with cycleCount := before.cycleCount + 1 }
  have updated : Undisturbed before _ := ⟨along.errorLimit, along.busErrors, along.env⟩
  have observed := explained.along updated.accounted
  have finished := observed.dispatched hardware config executed
  rw [← names] at finished
  have flushed := finished.along (flush_undisturbed hardware dispatched).accounted
  simpa [CycleReport.wasExecuted] using flushed

theorem Explained.poll (explained : Explained hardware.power limit ordered computer) :
    Explained hardware.power limit
      (ordered + if (computer.poll hardware.accounting config).1 = .reboot then 1 else 0)
      (computer.poll hardware.accounting config).2 := by
  obtain rfl := explained.errorLimit
  have drained : Accounted hardware.power computer.errorLimit computer
      (radioPart.lift (Radio.poll (hardware.accounting.link computer.errorLimit)
        config.securityCode) computer).2 :=
    ⟨rfl, hardware.reaches_reconciles ((radioPart.get computer).poll_reaches _ _)⟩
  have polled := explained.along drained
  unfold Computer.poll
  generalize radioPart.lift (Radio.poll (hardware.accounting.link computer.errorLimit)
    config.securityCode) computer = done at polled ⊢
  rcases done with ⟨answer, middle⟩
  cases answer with
  | none => exact polled
  | sendBeacon => exact polled.along (Undisturbed.accounted ⟨rfl, rfl, Std.Refl.refl _⟩)
  | reboot => exact (polled.along (flush_undisturbed hardware middle).accounted).cut

/-- A boot loads the limit, and begins with nothing to account for. -/
theorem Explained.boot {devices : Devices}
    (booted : Computer.boot hardware.accounting config (opened devices) = .ok computer) :
    Explained hardware.power
      (.ofByte (hardware.storage.loadOrInitial devices).1.settings.commLimit) 0 computer := by
  have loaded : hardware.accounting.storage.loadOrInitial (opened devices) =
      devicesPart.lift hardware.storage.loadOrInitial (opened devices) :=
    StorageUnit.loadOrInitial_through devicesPart hardware.storage (opened devices)
  obtain ⟨-, rfl⟩ := Computer.boot_eq_ok_iff.mp booted
  rw [loaded]
  refine ⟨rfl, ?_, ?_, ?_⟩
  · exact (Nat.zero_mod _).symm
  · exact ((Nat.zero_add _).trans (recoveries_nil _)).symm
  · intro _
    rfl

end Parts

end Computer

/--
A computer in one of its boots, with what its cycles have reported and its polls
have returned so far, latest first.
-/
inductive Served (hardware : Hardware Devices) (config : MissionConfig) (start : Devices) :
    List CycleReport → List GroundRequest → Computer (Accounts Devices) → Prop
  | boot {computer : Computer (Accounts Devices)}
      (booted : Computer.boot hardware.accounting config (opened start) = .ok computer) :
      Served hardware config start [] [] computer
  | cycle {reports : List CycleReport} {answers : List GroundRequest} {report : CycleReport}
      {before after : Computer (Accounts Devices)}
      (served : Served hardware config start reports answers before)
      (ran : before.runCycle hardware.accounting config = .ok (report, after)) :
      Served hardware config start (report :: reports) answers after
  | poll {reports : List CycleReport} {answers : List GroundRequest}
      {computer : Computer (Accounts Devices)}
      (served : Served hardware config start reports answers computer) :
      Served hardware config start reports
        ((computer.poll hardware.accounting config).1 :: answers)
        (computer.poll hardware.accounting config).2
  | requestSail {reports : List CycleReport} {answers : List GroundRequest}
      {computer : Computer (Accounts Devices)}
      (served : Served hardware config start reports answers computer) :
      Served hardware config start reports answers computer.requestSail.2
  | setTime {reports : List CycleReport} {answers : List GroundRequest}
      {computer : Computer (Accounts Devices)}
      (served : Served hardware config start reports answers computer) (time : Duration) :
      Served hardware config start reports answers (computer.setTime hardware.accounting time).2
  /-- The shared state is replaced from outside, settings included. -/
  | amend {reports : List CycleReport} {answers : List GroundRequest}
      {computer : Computer (Accounts Devices)}
      (served : Served hardware config start reports answers computer) (state : SystemState) :
      Served hardware config start reports answers { computer with state }
  /-- The devices change between two calls. -/
  | elapse {reports : List CycleReport} {answers : List GroundRequest}
      {computer : Computer (Accounts Devices)}
      (served : Served hardware config start reports answers computer) (devices : Devices) :
      Served hardware config start reports answers
        { computer with env := { computer.env with devices } }

namespace Served

variable {hardware : Hardware Devices} {config : MissionConfig} {start : Devices}
  {reports : List CycleReport} {answers : List GroundRequest}
  {computer : Computer (Accounts Devices)}

/-- Every request for a power cycle has been reported, returned, or made by a streak. -/
theorem explained (served : Served hardware config start reports answers computer) :
    computer.Explained hardware.power
      (.ofByte (hardware.storage.loadOrInitial start).1.settings.commLimit)
      (reports.countP (fun report => report.wasExecuted "power_cycle") +
        answers.count .reboot) := by
  induction served with
  | boot booted => exact Computer.Explained.boot hardware config booted
  | cycle served ran inductionHypothesis =>
      have next := inductionHypothesis.runCycle hardware config ran
      rw [List.countP_cons, Nat.add_right_comm]
      exact next
  | poll served inductionHypothesis =>
      have next := inductionHypothesis.poll hardware config
      rw [List.count_cons, ← Nat.add_assoc]
      simpa using next
  | requestSail served inductionHypothesis =>
      exact inductionHypothesis.along (Computer.Undisturbed.accounted ⟨rfl, rfl, Std.Refl.refl _⟩)
  | setTime served time inductionHypothesis =>
      exact inductionHypothesis.along (Computer.setTime_undisturbed hardware time _).accounted
  | amend served state inductionHypothesis =>
      exact inductionHypothesis.along (Computer.Undisturbed.accounted ⟨rfl, rfl, Std.Refl.refl _⟩)
  | elapse served devices inductionHypothesis =>
      exact inductionHypothesis.along (Computer.Undisturbed.accounted ⟨rfl, rfl, ⟨rfl, rfl, rfl⟩⟩)

theorem step {report : CycleReport} {answer : GroundRequest} {after : Computer (Accounts Devices)}
    (served : Served hardware config start reports answers computer)
    (stepped : computer.step hardware.accounting config = .ok ((report, answer), after)) :
    Served hardware config start (report :: reports) (answer :: answers) after := by
  unfold Computer.step at stepped
  cases ran : computer.runCycle hardware.accounting config with
  | error fault =>
      rw [ran] at stepped
      cases stepped
  | ok cycled =>
      rw [ran] at stepped
      cases stepped
      exact (served.cycle ran).poll

/--
Every power cycle has a cause. Since the boot there have been as many as there
are reports that list one, polls that returned an order to reboot, and full
limits of consecutive failures on the bus, with the limit that the boot has
loaded; a change of the settings in between makes no difference.
-/
theorem power_cycles_explained
    (served : Served hardware config start reports answers computer) :
    let limit := max (hardware.storage.loadOrInitial start).1.settings.commLimit.toNat 1
    let streaks := computer.env.transfers.splitOnP Link.succeeded
    let causes := reports.countP (fun report => report.wasExecuted "power_cycle") +
      answers.count .reboot + (streaks.map fun streak => streak.length / limit).sum
    computer.env.cycles + computer.env.refusals = causes ∧
      ((∀ devices, (hardware.power.cycle devices).1 = .ok ()) → computer.env.cycles = causes) := by
  intro limit streaks causes
  obtain ⟨-, -, explained, steady⟩ := served.explained
  have counted : computer.env.cycles + computer.env.refusals = causes := explained
  refine ⟨counted, ?_⟩
  intro never
  have none : computer.env.refusals = 0 := steady never
  rw [← counted, none]
  rfl

def sturdy : Hardware Bench :=
  { Bench.hardware false with
    power := { (Bench.hardware false).power with cycle := fun bench => (.ok (), bench) } }

def ordering : Bench :=
  { Bench.fresh with
    transceiver := { Transceiver.idle with uplink := [[0xBA, 0xAD, 0xF0, 0x0D, 0xAA]] } }

def silent : Bench :=
  { Bench.fresh with
    clock := .ofSeconds 86400
    transceiver := { Transceiver.idle with offline := true } }

def throughTheDay (computer : Computer (Accounts Bench)) :
    Except Fault (List CycleReport × List GroundRequest × Computer (Accounts Bench)) := do
  let day ← computer.step sturdy.accounting .standard
  let night ← Computer.step sturdy.accounting .standard
    { day.2 with env := { day.2.env with devices := silent } }
  let polled := night.2.poll sturdy.accounting .standard
  return ([night.1.1, day.1.1], [polled.1, night.1.2, day.1.2], polled.2)

theorem served_throughTheDay {before after : Computer (Accounts Bench)}
    {reports : List CycleReport} {answers : List GroundRequest}
    (booted : Computer.boot sturdy.accounting .standard (opened ordering) = .ok before)
    (ran : throughTheDay before = .ok (reports, answers, after)) :
    Served sturdy .standard ordering reports answers after := by
  cases first : before.step sturdy.accounting .standard with
  | error fault =>
      simp only [throughTheDay, first, bind, Except.bind] at ran
      cases ran
  | ok day =>
      cases second : Computer.step sturdy.accounting .standard
        { day.2 with env := { day.2.env with devices := silent } } with
      | error fault =>
          simp only [throughTheDay, first, second, bind, Except.bind] at ran
          cases ran
      | ok night =>
          simp only [throughTheDay, first, second, bind, Except.bind] at ran
          cases ran
          have evening := (Served.boot booted).step first
          exact ((evening.elapse silent).step second).poll

/-- One power cycle from each cause. -/
theorem power_cycles_explained_onBench :
    ∃ reports answers computer,
      Served sturdy .standard ordering reports answers computer ∧
        reports.countP (fun report => report.wasExecuted "power_cycle") = 1 ∧
        answers.count .reboot = 1 ∧
        ((computer.env.transfers.splitOnP Link.succeeded).map
          fun streak => streak.length / 5).sum = 1 ∧
        computer.env.cycles = 3 := by
  have settles : (Computer.boot sturdy.accounting .standard (opened ordering)).toOption.bind
      (fun booted => (throughTheDay booted).toOption.map fun (reports, answers, computer) =>
        (reports.countP (fun report => report.wasExecuted "power_cycle"), answers.count .reboot,
          ((computer.env.transfers.splitOnP Link.succeeded).map
            fun streak => streak.length / 5).sum)) = some (1, 1, 1) := by
    decide +kernel
  have limit : max (sturdy.storage.loadOrInitial ordering).1.settings.commLimit.toNat 1 = 5 := by
    decide +kernel
  cases booted : Computer.boot sturdy.accounting .standard (opened ordering) with
  | error error =>
      rw [booted] at settles
      cases settles
  | ok before =>
      rw [booted] at settles
      rcases ran : throughTheDay before with fault | ⟨reports, answers, after⟩
      · simp only [Except.toOption, Option.bind_some, ran] at settles
        cases settles
      · simp only [Except.toOption, Option.bind_some, ran, Option.map_some, Option.some.injEq,
          Prod.mk.injEq] at settles
        obtain ⟨reported, ordered, failed⟩ := settles
        have served := served_throughTheDay booted ran
        have cycles := served.power_cycles_explained.2 fun _ => rfl
        refine ⟨reports, answers, after, served, reported, ordered, failed, ?_⟩
        rw [cycles, limit, reported, ordered, failed]

end Served

end Cubesat
