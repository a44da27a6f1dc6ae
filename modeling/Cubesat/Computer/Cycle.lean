import Cubesat.Computer.Basic

/-!
The flight computer at work: booting, mission cycles, polls of the radio, and
requests from outside.
-/

namespace Cubesat

universe u

namespace Computer

variable {Env : Type u}

/-- The tasks that keep time stamps, in the order in which they learn of a change of time. -/
def timeObservers : TimeObservers (Computer Env) where
  entries :=
    [fun jump computer => { computer with deployment := computer.deployment.timeChanged jump },
      fun jump computer => { computer with sail := computer.sail.timeChanged jump },
      fun jump computer => { computer with broadcast := computer.broadcast.timeChanged jump },
      fun jump computer => { computer with powerCycle := computer.powerCycle.timeChanged jump }]

def timeUpdate (clocks : Clocks Env) : Update (Computer Env) where
  name := "time"
  run computer :=
    let done := timekeeperPart.lift (Timekeeper.update clocks) computer
    (done.1.1, timeObservers.notifyIf done.1.2 done.2)

/--
The mission cycle. Time comes first, because everything after it compares
against mission time; saving comes last.
-/
def schedule (hardware : Hardware Env) (config : MissionConfig) (limit : ErrorLimit) :
    Schedule (Computer Env) where
  updates :=
    [timeUpdate hardware.clocks,
      (Deployment.observation hardware.antenna).through deploymentPart,
      (Detumbling.observation hardware.adcs).through detumblingPart,
      (SailOpening.observation config.sailAutoOpen).through sailPart]
  verifies :=
    [{ name := "sail.consistency", run := fun computer => SailOpening.consistency computer.state }]
  actions :=
    [(Deployment.action config.deployment hardware.antenna).through deploymentPart,
      (Detumbling.action config.detumbling hardware.adcs).through detumblingPart,
      (SailOpening.action hardware.power).through sailPart,
      (Broadcast.action config.beaconInterval (hardware.transmitter limit)).through broadcastPart,
      (PeriodicPowerCycle.action config.powerCyclePeriod hardware.scrubbing hardware.power).through
        powerCyclePart,
      hardware.storage.saveAction.through storagePart]

def ofSettings (persistent : PersistentState) (env : Env) : Computer Env :=
  { state := .boot persistent
    cycleCount := 0
    timekeeper := .start
    deployment := .start
    detumbling := .idle
    sail := .start
    broadcast := .start
    powerCycle := .start
    stats := .empty
    busErrors := 0
    errorLimit := .ofByte persistent.settings.commLimit
    env }

/-- Boots a computer with the saved settings, unless its configuration breaks a rule. -/
def boot (hardware : Hardware Env) (config : MissionConfig) (env : Env) :
    Except ConfigError (Computer Env) :=
  config.validate.map fun _ =>
    let loaded := hardware.storage.loadOrInitial env
    ofSettings loaded.1 loaded.2

theorem boot_eq_ok_iff {hardware : Hardware Env} {config : MissionConfig} {env : Env}
    {computer : Computer Env} :
    boot hardware config env = .ok computer ↔
      config.validate = .ok config ∧
        computer = ofSettings (hardware.storage.loadOrInitial env).1
          (hardware.storage.loadOrInitial env).2 := by
  unfold boot MissionConfig.validate
  cases config.brokenRule? with
  | none => simp [Except.map, eq_comm]
  | some rule => simp [Except.map]

/-- Saves the settings if they may have changed; returns whether storage holds them now. -/
def flush (hardware : Hardware Env) (computer : Computer Env) : Bool × Computer Env :=
  storagePart.lift (fun part => hardware.storage.flush part.1 part.2) computer

def runCycle (hardware : Hardware Env) (config : MissionConfig) (computer : Computer Env) :
    Except Fault (CycleReport × Computer Env) :=
  let cycle := computer.cycleCount + 1
  ((schedule hardware config computer.errorLimit).runCycle cycle
      { computer with cycleCount := cycle }).map fun (report, computer) =>
    (report, (computer.flush hardware).2)

/-- Drains the radio's receiver and does what the ground asks for. -/
def poll (hardware : Hardware Env) (config : MissionConfig) (computer : Computer Env) :
    GroundRequest × Computer Env :=
  let polled :=
    radioPart.lift (Radio.poll (hardware.link computer.errorLimit) config.securityCode) computer
  let computer := polled.2
  match polled.1 with
  | .none => (.none, computer)
  | .sendBeacon =>
      (.sendBeacon, { computer with broadcast := computer.broadcast.requestImmediate })
  | .reboot =>
      let saved := (computer.flush hardware).2
      (.reboot, { saved with env := (hardware.power.cycle saved.env).2 })

def step (hardware : Hardware Env) (config : MissionConfig) (computer : Computer Env) :
    Except Fault ((CycleReport × GroundRequest) × Computer Env) :=
  (computer.runCycle hardware config).map fun (report, computer) =>
    let polled := computer.poll hardware config
    ((report, polled.1), polled.2)

/--
Runs steps with a pause of one cycle period after each until `keepRunning` says
no, but no more than `limit` of them.
-/
def run (hardware : Hardware Env) (config : MissionConfig)
    (pause : Nat → Computer Env → Computer Env)
    (keepRunning : CycleReport → Computer Env → Bool × Computer Env) :
    (limit : Nat) → Computer Env → Except Fault (Computer Env)
  | 0, computer => .ok computer
  | limit + 1, computer =>
      match computer.step hardware config with
      | .error fault => .error fault
      | .ok ((report, _), computer) =>
          let asked := keepRunning report computer
          if asked.1 then
            run hardware config pause keepRunning limit
              (pause (pauseMillis config.cyclePeriod) asked.2)
          else
            .ok asked.2

/-- Leaves a request to open the sail; returns whether no opening is running now. -/
def requestSail (computer : Computer Env) : Bool × Computer Env :=
  let asked := computer.sail.requestOpen
  (asked.1, { computer with sail := asked.2 })

/-- Schedules an explicit change of mission time; returns whether the mission clock took it. -/
def setTime (hardware : Hardware Env) (time : Duration) (computer : Computer Env) :
    Bool × Computer Env :=
  let (accepted, timekeeper, env) := computer.timekeeper.setTime hardware.clocks time computer.env
  (accepted, { computer with timekeeper, env })

def set (setting : Setting) (computer : Computer Env) : Computer Env :=
  { computer with state := computer.state.set setting }

end Computer

end Cubesat
