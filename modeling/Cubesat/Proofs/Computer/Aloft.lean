import Cubesat.Comm.Transceiver
import Cubesat.Computer.Cycle
import Cubesat.Proofs.Comm.Mirror
import Cubesat.Proofs.Task.Mirror

/-!
A flight computer whose bus leads to a transceiver, with another inbox.

The inbox is what the frames that come up leave behind: the receiver's queue and
its last answer, and the counts of frames. Nothing but a poll looks into it.
What the computer does with one inbox it also does with any other one, and it
leaves the inbox as it is.
-/

namespace Cubesat

universe u v w

/-- A transceiver, the delay that the radio waits with, and all other devices. -/
structure Aloft (Delay : Type u) (Devices : Type v) where
  transceiver : Transceiver
  delay : Delay
  devices : Devices

namespace Aloft

variable {Delay : Type u} {Devices : Type v}

def transceiverPart : Lens (Aloft Delay Devices) Transceiver where
  get aloft := aloft.transceiver
  set transceiver aloft := { aloft with transceiver }

def delayPart : Lens (Aloft Delay Devices) Delay where
  get aloft := aloft.delay
  set delay aloft := { aloft with delay }

def devicesPart : Lens (Aloft Delay Devices) Devices where
  get aloft := aloft.devices
  set devices aloft := { aloft with devices }

end Aloft

def Hardware.aloft {Delay : Type u} {Devices : Type v} (hardware : Hardware Devices)
    (pause : Nat → Delay → Delay) : Hardware (Aloft Delay Devices) where
  bus := Transceiver.bus.through Aloft.transceiverPart
  pause millis := Aloft.delayPart.modify (pause millis)
  clocks :=
    { mission := hardware.clocks.mission.through Aloft.devicesPart
      external := hardware.clocks.external.map (ClockUnit.through Aloft.devicesPart) }
  antenna := hardware.antenna.through Aloft.devicesPart
  adcs := hardware.adcs.through Aloft.devicesPart
  power := hardware.power.through Aloft.devicesPart
  storage := hardware.storage.through Aloft.devicesPart
  scrubbing aloft := hardware.scrubbing aloft.devices

/-- What uplinked frames leave behind. -/
@[ext]
structure Inbox where
  uplink : List Bytes
  answer : Bytes
  received : Tally
  dropped : Tally

def Inbox.empty : Inbox :=
  { uplink := [], answer := [], received := .zero, dropped := .zero }

def Transceiver.holding (inbox : Inbox) (device : Transceiver) : Transceiver :=
  { device with uplink := inbox.uplink, receiverAnswer := inbox.answer }

def RadioStats.holding (inbox : Inbox) (stats : RadioStats) : RadioStats :=
  { stats with framesReceived := inbox.received, framesDropped := inbox.dropped }

theorem Transceiver.onWrite_transmitter_holding (inbox : Inbox) (data : Bytes) :
    Commutes (holding inbox) (onWrite Comm.transmitterAddress data)
      (onWrite Comm.transmitterAddress data) := by
  intro device
  have other : ¬ Comm.transmitterAddress = Comm.receiverAddress := by decide
  simp only [onWrite, if_neg other, if_true]
  rw [show (device.holding inbox).offline = device.offline from rfl]
  split
  · rfl
  · unfold transmitterCommand
    rw [show (device.holding inbox).downlink = device.downlink from rfl]
    split
    · rfl
    · split
      · split
        · rfl
        · rfl
      · split
        · rfl
        · split
          · split
            · rfl
            · rfl
          · rfl

section Holding

variable {Delay : Type u} {Delay' : Type w} {Devices : Type v} (inbox : Inbox)
  (wait : Delay → Delay')

def Aloft.holding (aloft : Aloft Delay Devices) : Aloft Delay' Devices :=
  { transceiver := aloft.transceiver.holding inbox
    delay := wait aloft.delay
    devices := aloft.devices }

def Guarded.holding (guarded : Guarded (Aloft Delay Devices)) :
    Guarded (Aloft Delay' Devices) :=
  { env := guarded.env.holding inbox wait, errors := guarded.errors }

def Radio.holding (radio : Radio (Guarded (Aloft Delay Devices))) :
    Radio (Guarded (Aloft Delay' Devices)) :=
  { stats := radio.stats.holding inbox, env := radio.env.holding inbox wait }

def Computer.holding (computer : Computer (Aloft Delay Devices)) :
    Computer (Aloft Delay' Devices) :=
  { computer with
    stats := computer.stats.holding inbox
    env := computer.env.holding inbox wait }

end Holding

namespace Computer

variable {Delay : Type u} {Delay' : Type w} {Devices : Type v}

def inbox (computer : Computer (Aloft Delay Devices)) : Inbox :=
  { uplink := computer.env.transceiver.uplink
    answer := computer.env.transceiver.receiverAnswer
    received := computer.stats.framesReceived
    dropped := computer.stats.framesDropped }

@[simp]
theorem inbox_holding (inbox : Inbox) (wait : Delay → Delay')
    (computer : Computer (Aloft Delay Devices)) :
    (computer.holding inbox wait).inbox = inbox := rfl

@[simp]
theorem holding_inbox (computer : Computer (Aloft Delay Devices)) :
    computer.holding computer.inbox id = computer := rfl

end Computer

section Hardware

variable {Delay : Type u} {Delay' : Type w} {Devices : Type v} (hardware : Hardware Devices)
  (inbox : Inbox) (wait : Delay → Delay')

theorem Aloft.devicesPart_fits :
    (devicesPart : Lens (Aloft Delay Devices) Devices).Fits (holding inbox wait) id
      devicesPart where
  get _ := rfl
  set _ _ := rfl

theorem Aloft.transceiverPart_fits :
    (transceiverPart : Lens (Aloft Delay Devices) Transceiver).Fits (holding inbox wait)
      (Transceiver.holding inbox) transceiverPart where
  get _ := rfl
  set _ _ := rfl

variable (pause : Nat → Delay → Delay) (shown : Nat → Delay' → Delay')

namespace Hardware

theorem clocks_mirrors : (hardware.aloft pause).clocks.Mirrors (Aloft.holding inbox wait)
    (hardware.aloft shown).clocks where
  mission := ClockUnit.through_mirrors (Aloft.devicesPart_fits inbox wait) _
  external := by
    unfold Hardware.aloft
    cases hardware.clocks.external with
    | none => exact .none
    | some external =>
        exact .some (ClockUnit.through_mirrors (Aloft.devicesPart_fits inbox wait) external)

theorem power_mirrors : (hardware.aloft pause).power.Mirrors (Aloft.holding inbox wait)
    (hardware.aloft shown).power :=
  PowerUnit.through_mirrors (Aloft.devicesPart_fits inbox wait) _

theorem storage_mirrors : (hardware.aloft pause).storage.Mirrors (Aloft.holding inbox wait)
    (hardware.aloft shown).storage :=
  StorageUnit.through_mirrors (Aloft.devicesPart_fits inbox wait) _

theorem record_holding (limit : ErrorLimit) (result : BusResult)
    (guarded : Guarded (Aloft Delay Devices)) :
    Guarded.record limit (fun env => ((hardware.aloft shown).power.cycle env).2) result
        (guarded.holding inbox wait) =
      (guarded.record limit (fun env => ((hardware.aloft pause).power.cycle env).2)
        result).holding inbox wait := by
  cases result with
  | ok done => rfl
  | error error =>
      unfold Guarded.record
      dsimp only
      by_cases reached : limit.value ≤ min (guarded.errors + 1) 255
      · rw [if_pos reached]
        exact if_pos reached
      · rw [if_neg reached]
        exact if_neg reached

theorem write_holding (data : Bytes) : Commutes (Aloft.holding inbox wait)
    ((hardware.aloft pause).bus.write Comm.transmitterAddress data)
    ((hardware.aloft shown).bus.write Comm.transmitterAddress data) :=
  (Aloft.transceiverPart_fits inbox wait).lift (Transceiver.onWrite_transmitter_holding inbox data)

theorem fetch_holding (buffer : Bytes) : Commutes (Aloft.holding inbox wait)
    ((hardware.aloft pause).bus.fetch Comm.transmitterAddress buffer)
    ((hardware.aloft shown).bus.fetch Comm.transmitterAddress buffer) :=
  (Aloft.transceiverPart_fits inbox wait).lift fun _ => rfl

variable {wait pause shown}
  (follows : ∀ millis delay, shown millis (wait delay) = wait (pause millis delay))

include follows

theorem link_shows (limit : ErrorLimit) :
    ((hardware.aloft pause).link limit).ShowsAt Comm.transmitterAddress
      (Guarded.holding inbox wait) ((hardware.aloft shown).link limit) where
  write data guarded := by
    have written := hardware.write_holding inbox wait pause shown data guarded.env
    simp only [Hardware.link, Bus.limited]
    rw [show (guarded.holding inbox wait).env = guarded.env.holding inbox wait from rfl, written]
    exact congrArg (Prod.mk _) (hardware.record_holding inbox wait pause shown limit _
      { guarded with
        env := ((hardware.aloft pause).bus.write Comm.transmitterAddress data guarded.env).2 })
  read buffer := Bus.read_commutes fun guarded => by
    have fetched := hardware.fetch_holding inbox wait pause shown buffer guarded.env
    simp only [Hardware.link, Bus.limited]
    rw [show (guarded.holding inbox wait).env = guarded.env.holding inbox wait from rfl, fetched]
    exact congrArg (Prod.mk _) (hardware.record_holding inbox wait pause shown limit _
      { guarded with
        env := ((hardware.aloft pause).bus.fetch Comm.transmitterAddress buffer guarded.env).2 })
  pause millis guarded :=
    congrArg (fun delay => Guarded.mk (Aloft.mk (guarded.env.transceiver.holding inbox) delay
      guarded.env.devices) guarded.errors) (follows millis guarded.env.delay)

theorem transmitter_holding (limit : ErrorLimit) (frame : Bytes) :
    Commutes (Radio.holding inbox wait) (((hardware.aloft pause).transmitter limit).send frame)
      (((hardware.aloft shown).transmitter limit).send frame) := by
  intro radio
  have sent := Radio.showing_sendFrame (hardware.link_shows inbox follows limit) frame
    { radio with stats := radio.stats.holding inbox }
  have counted : Radio.sendFrame ((hardware.aloft pause).link limit) frame
      { radio with stats := radio.stats.holding inbox } =
        ((radio.sendFrame ((hardware.aloft pause).link limit) frame).1,
          { (radio.sendFrame ((hardware.aloft pause).link limit) frame).2 with
            stats :=
              (radio.sendFrame ((hardware.aloft pause).link limit) frame).2.stats.holding
                inbox }) := by
    unfold Radio.sendFrame
    split
    · rfl
    · dsimp only
      split
      · split
        · rfl
        · rfl
      · rfl
  rw [counted] at sent
  exact sent

end Hardware

namespace Computer

theorem timekeeperPart_fits : (timekeeperPart : Lens (Computer (Aloft Delay Devices)) _).Fits
    (holding inbox wait) (Context.showing (Aloft.holding inbox wait)) timekeeperPart :=
  ⟨fun _ => rfl, fun _ _ => rfl⟩

theorem deploymentPart_fits : (deploymentPart : Lens (Computer (Aloft Delay Devices)) _).Fits
    (holding inbox wait) (Context.showing (Aloft.holding inbox wait)) deploymentPart :=
  ⟨fun _ => rfl, fun _ _ => rfl⟩

theorem detumblingPart_fits : (detumblingPart : Lens (Computer (Aloft Delay Devices)) _).Fits
    (holding inbox wait) (Context.showing (Aloft.holding inbox wait)) detumblingPart :=
  ⟨fun _ => rfl, fun _ _ => rfl⟩

theorem sailPart_fits : (sailPart : Lens (Computer (Aloft Delay Devices)) _).Fits
    (holding inbox wait) (Context.showing (Aloft.holding inbox wait)) sailPart :=
  ⟨fun _ => rfl, fun _ _ => rfl⟩

theorem powerCyclePart_fits : (powerCyclePart : Lens (Computer (Aloft Delay Devices)) _).Fits
    (holding inbox wait) (Context.showing (Aloft.holding inbox wait)) powerCyclePart :=
  ⟨fun _ => rfl, fun _ _ => rfl⟩

theorem storagePart_fits : (storagePart : Lens (Computer (Aloft Delay Devices)) _).Fits
    (holding inbox wait) (StorageUnit.showing (Aloft.holding inbox wait)) storagePart :=
  ⟨fun _ => rfl, fun _ _ => rfl⟩

theorem broadcastPart_fits : (broadcastPart : Lens (Computer (Aloft Delay Devices)) _).Fits
    (holding inbox wait) (Context.showing (Radio.holding inbox wait)) broadcastPart :=
  ⟨fun _ => rfl, fun _ _ => rfl⟩

theorem timeUpdate_mirrors : (timeUpdate (hardware.aloft pause).clocks).Mirrors
    (holding inbox wait) (timeUpdate (hardware.aloft shown).clocks) where
  name := rfl
  run computer := by
    have updated := (timekeeperPart_fits inbox wait).lift
      (Timekeeper.update_mirrors (hardware.clocks_mirrors inbox wait pause shown)) computer
    simp only [timeUpdate, updated]
    cases (timekeeperPart.lift (Timekeeper.update (hardware.aloft pause).clocks) computer).1.2 with
    | none => rfl
    | some jump => rfl

theorem flush_holding : Commutes (holding inbox wait)
    (fun computer => computer.flush (hardware.aloft pause))
    (fun computer => computer.flush (hardware.aloft shown)) :=
  (storagePart_fits inbox wait).lift
    (StorageUnit.flush_mirrors (hardware.storage_mirrors inbox wait pause shown))

theorem setTime_holding (time : Duration) :
    Commutes (holding inbox wait) (setTime (hardware.aloft pause) time)
      (setTime (hardware.aloft shown) time) := by
  intro computer
  have set := Timekeeper.setTime_mirrors (hardware.clocks_mirrors inbox wait pause shown) time
    computer.timekeeper computer.env
  unfold setTime
  simp only [show (computer.holding inbox wait).env = computer.env.holding inbox wait from rfl,
    show (computer.holding inbox wait).timekeeper = computer.timekeeper from rfl, set]
  rfl

variable {wait pause shown}
  (follows : ∀ millis delay, shown millis (wait delay) = wait (pause millis delay))

include follows

theorem schedule_mirrors (config : MissionConfig) (limit : ErrorLimit) :
    (schedule (hardware.aloft pause) config limit).Mirrors (holding inbox wait)
      (schedule (hardware.aloft shown) config limit) := by
  have reached : (Aloft.devicesPart : Lens (Aloft Delay Devices) Devices).Fits
      (Aloft.holding inbox wait) id Aloft.devicesPart := Aloft.devicesPart_fits inbox wait
  have antenna := AntennaUnit.through_mirrors reached hardware.antenna
  have adcs := AdcsUnit.through_mirrors reached hardware.adcs
  have power := hardware.power_mirrors inbox wait pause shown
  have storage := hardware.storage_mirrors inbox wait pause shown
  have transmitter := hardware.transmitter_holding inbox follows limit
  constructor
  case updates =>
    refine .cons ?_ (.cons ?_ (.cons ?_ (.cons ?_ .nil)))
    · exact timeUpdate_mirrors hardware inbox wait pause shown
    · exact .through (deploymentPart_fits inbox wait) (Deployment.observation_mirrors antenna)
    · exact .through (detumblingPart_fits inbox wait) (Detumbling.observation_mirrors adcs)
    · exact .through (sailPart_fits inbox wait) (SailOpening.observation_mirrors _)
  case verifies => exact .cons ⟨rfl, fun _ => rfl⟩ .nil
  case actions =>
    refine .cons ?_ (.cons ?_ (.cons ?_ (.cons ?_ (.cons ?_ (.cons ?_ .nil)))))
    · exact .through (deploymentPart_fits inbox wait) (Deployment.action_mirrors _ antenna)
    · exact .through (detumblingPart_fits inbox wait) (Detumbling.action_mirrors _ adcs)
    · exact .through (sailPart_fits inbox wait) (SailOpening.action_mirrors power)
    · exact .through (broadcastPart_fits inbox wait) (Broadcast.action_mirrors _ transmitter)
    · exact .through (powerCyclePart_fits inbox wait)
        (PeriodicPowerCycle.action_mirrors _ (fun _ => rfl) power)
    · exact .through (storagePart_fits inbox wait) (StorageUnit.saveAction_mirrors storage)

/-- A cycle does the same with another inbox. -/
theorem runCycle_holding (config : MissionConfig) (computer : Computer (Aloft Delay Devices)) :
    (computer.holding inbox wait).runCycle (hardware.aloft shown) config =
      (computer.runCycle (hardware.aloft pause) config).map fun (report, after) =>
        (report, after.holding inbox wait) := by
  have ran := (schedule_mirrors hardware inbox follows config computer.errorLimit).runCycle
    (computer.cycleCount + 1) { computer with cycleCount := computer.cycleCount + 1 }
  rw [show (computer.holding inbox wait).runCycle (hardware.aloft shown) config =
    ((schedule (hardware.aloft shown) config computer.errorLimit).runCycle
      (computer.cycleCount + 1)
      (holding inbox wait { computer with cycleCount := computer.cycleCount + 1 })).map
        fun done => (done.1, (done.2.flush (hardware.aloft shown)).2) from rfl, ran]
  unfold runCycle
  dsimp only
  cases (schedule (hardware.aloft pause) config computer.errorLimit).runCycle
    (computer.cycleCount + 1) { computer with cycleCount := computer.cycleCount + 1 } with
  | error fault => rfl
  | ok done =>
      exact congrArg (fun flushed => Except.ok (done.1, flushed.2))
        (flush_holding hardware inbox wait pause shown done.2)

end Computer

end Hardware

end Cubesat
