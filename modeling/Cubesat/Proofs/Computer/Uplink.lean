import Cubesat.Proofs.Comm.Drain
import Cubesat.Proofs.Computer.Aloft
import Cubesat.Simulator.Bench

/-!
Frames that nobody authorised.

Two computers are alike if they differ in the inbox alone, and there by frames
that ask for nothing. A poll of alike computers gives the same answer and leaves
alike computers behind, whether the transceiver answers or is offline.
-/

namespace Cubesat

universe u v w

section Poll

variable {Delay : Type u} {Devices : Type v} (hardware : Hardware Devices)
  (pause : Nat → Delay → Delay) (limit : ErrorLimit)

namespace Hardware

/-- A transfer that the transceiver takes ends a run of failures and moves no other device. -/
def Settled (before after : Guarded (Aloft Delay Devices)) : Prop :=
  after.errors = 0 ∧ after.env.devices = before.env.devices

theorem link_serves : ((hardware.aloft pause).link limit).Serves
    (fun guarded => guarded.env.transceiver) Settled where
  write {address data env after} taken := by
    refine ⟨⟨{ env.env with transceiver := after }, 0⟩, ?_, rfl, rfl, rfl⟩
    simp only [link, aloft, Bus.limited, Bus.through, Lens.lift, Aloft.transceiverPart,
      Transceiver.bus, taken, Guarded.record]
  fetch {address buffer env arrived} answered := by
    refine ⟨⟨env.env, 0⟩, ?_, rfl, rfl, rfl⟩
    simp only [link, aloft, Bus.limited, Bus.through, Lens.lift, Aloft.transceiverPart,
      Transceiver.bus, answered, Guarded.record]
  pause _ _ := rfl
  settles_pause _ settled := settled
  trans early late := ⟨late.1, late.2.trans early.2⟩

def missed (guarded : Guarded (Aloft Delay Devices)) : Guarded (Aloft Delay Devices) :=
  Guarded.record limit (fun env => ((hardware.aloft pause).power.cycle env).2) (.error .nack)
    guarded

theorem missed_transceiver (guarded : Guarded (Aloft Delay Devices)) :
    (hardware.missed pause limit guarded).env.transceiver = guarded.env.transceiver := by
  unfold missed Guarded.record
  dsimp only
  split
  · rfl
  · rfl

section Offline

variable {guarded : Guarded (Aloft Delay Devices)}
  (offline : guarded.env.transceiver.offline = true)

include offline

theorem send_offline (address : Address) (data : Bytes) :
    ((hardware.aloft pause).link limit).send address data guarded =
      (false, hardware.missed pause limit guarded) := by
  have refused : guarded.env.transceiver.onWrite address data =
      (.error .nack, guarded.env.transceiver) := if_pos offline
  simp only [Link.send, link, aloft, Bus.limited, Bus.through, Lens.lift, Aloft.transceiverPart,
    Transceiver.bus, refused]
  rfl

theorem frameCount?_offline :
    ((hardware.aloft pause).link limit).frameCount? guarded =
      (none, hardware.missed pause limit guarded) := by
  have refused : guarded.env.transceiver.onWrite Comm.receiverAddress [Comm.frameCountCommand] =
      (.error .nack, guarded.env.transceiver) := if_pos offline
  simp only [Link.frameCount?, Link.request, link, aloft, Bus.limited, Bus.through, Lens.lift,
    Aloft.transceiverPart, Transceiver.bus, refused]
  rfl

end Offline

end Hardware

namespace Radio

/-- The radio after a poll of an online transceiver, but for what came up. -/
def tended (radio : Radio (Guarded (Aloft Delay Devices))) :
    Radio (Guarded (Aloft Delay Devices)) :=
  { stats := radio.stats.watched.watched
    env :=
      { env := { radio.env.env with transceiver := radio.env.env.transceiver.watched }
        errors := 0 } }

def ignored (radio : Radio (Guarded (Aloft Delay Devices))) :
    Radio (Guarded (Aloft Delay Devices)) :=
  { radio with
    env := hardware.missed pause limit (hardware.missed pause limit
      (hardware.missed pause limit radio.env)) }

variable (code : UInt32) (radio : Radio (Guarded (Aloft Delay Devices)))

theorem poll_online (online : radio.env.env.transceiver.offline = false) :
    let done := radio.poll ((hardware.aloft pause).link limit) code
    done.1 = .ofQueue code radio.env.env.transceiver.announced ∧
      done.2.holding .empty (fun _ => ()) = (radio.holding .empty fun _ => ()).tended ∧
        done.2.env.env.transceiver.uplink = radio.env.env.transceiver.uplink.drop
          radio.env.env.transceiver.announced.length := by
  obtain ⟨request, stats, ⟨answer, shown⟩, calm, still⟩ :=
    poll_serves (hardware.link_serves pause limit) code radio online
  refine ⟨request, ?_, congrArg Transceiver.uplink shown⟩
  unfold holding tended Guarded.holding Aloft.holding
  dsimp only
  rw [stats, shown, calm, still]
  rfl

theorem resetWatchdog_offline (offline : radio.env.env.transceiver.offline = true)
    (address : Address) :
    radio.resetWatchdog ((hardware.aloft pause).link limit) address =
      (false, { radio with env := hardware.missed pause limit radio.env }) := by
  unfold resetWatchdog
  rw [hardware.send_offline pause limit offline]
  rfl

theorem poll_offline (offline : radio.env.env.transceiver.offline = true) :
    radio.poll ((hardware.aloft pause).link limit) code =
      (.none, radio.ignored hardware pause limit) := by
  have once : (hardware.missed pause limit radio.env).env.transceiver.offline = true := by
    rw [hardware.missed_transceiver]
    exact offline
  have twice : (hardware.missed pause limit
      (hardware.missed pause limit radio.env)).env.transceiver.offline = true := by
    rw [hardware.missed_transceiver]
    exact once
  unfold poll
  rw [hardware.frameCount?_offline pause limit offline]
  simp only [Option.getD_none, processFrames]
  rw [resetWatchdog_offline hardware pause limit
    { radio with env := hardware.missed pause limit radio.env } once]
  dsimp only
  rw [resetWatchdog_offline hardware pause limit _ twice]
  rfl

theorem ignored_holding {Delay' : Type w} (inbox : Inbox) (wait : Delay → Delay')
    (shown : Nat → Delay' → Delay') :
    (radio.ignored hardware pause limit).holding inbox wait =
      (radio.holding inbox wait).ignored hardware shown limit := by
  have missed (guarded : Guarded (Aloft Delay Devices)) :
      (hardware.missed pause limit guarded).holding inbox wait =
        hardware.missed shown limit (guarded.holding inbox wait) :=
    (hardware.record_holding inbox wait pause shown limit (.error .nack) guarded).symm
  unfold ignored holding
  rw [missed, missed, missed]

end Radio

end Poll

section Computer

variable {Delay : Type u} {Devices : Type v} (hardware : Hardware Devices)
  (pause : Nat → Delay → Delay) (config : MissionConfig)

namespace Computer

def unnoticed (_ : Nat) (delay : Unit) : Unit :=
  delay

def outward (computer : Computer (Aloft Delay Devices)) : Computer (Aloft Unit Devices) :=
  computer.holding .empty fun _ => ()

def obey {Env : Type u} (hardware : Hardware Env) (request : GroundRequest)
    (computer : Computer Env) : Computer Env :=
  match request with
  | .none => computer
  | .sendBeacon => { computer with broadcast := computer.broadcast.requestImmediate }
  | .reboot =>
      let saved := (computer.flush hardware).2
      { saved with env := (hardware.power.cycle saved.env).2 }

theorem poll_eq {Env : Type u} (hardware : Hardware Env) (computer : Computer Env) :
    computer.poll hardware config =
      (((radioPart.get computer).poll (hardware.link computer.errorLimit) config.securityCode).1,
        (radioPart.set ((radioPart.get computer).poll (hardware.link computer.errorLimit)
          config.securityCode).2 computer).obey hardware
            ((radioPart.get computer).poll (hardware.link computer.errorLimit)
              config.securityCode).1) := by
  unfold poll
  simp only [Lens.lift]
  cases ((radioPart.get computer).poll (hardware.link computer.errorLimit)
    config.securityCode).1 with
  | none => rfl
  | sendBeacon => rfl
  | reboot => rfl

theorem obey_outward (request : GroundRequest) (computer : Computer (Aloft Delay Devices)) :
    (computer.obey (hardware.aloft pause) request).outward =
      computer.outward.obey (hardware.aloft unnoticed) request := by
  cases request with
  | none => rfl
  | sendBeacon => rfl
  | reboot =>
      have flushed : computer.outward.flush (hardware.aloft unnoticed) =
          ((computer.flush (hardware.aloft pause)).1,
            (computer.flush (hardware.aloft pause)).2.outward) :=
        flush_holding hardware .empty (fun _ => ()) pause unnoticed computer
      unfold obey
      dsimp only
      rw [flushed]
      rfl

theorem runCycle_outward (computer : Computer (Aloft Delay Devices)) :
    computer.outward.runCycle (hardware.aloft unnoticed) config =
      (computer.runCycle (hardware.aloft pause) config).map fun (report, after) =>
        (report, after.outward) :=
  @runCycle_holding Delay Unit Devices hardware .empty (fun _ => ()) pause unnoticed
    (fun _ _ => rfl) config computer

theorem setTime_outward (time : Duration) :
    Commutes outward (fun computer => computer.setTime (hardware.aloft pause) time)
      (fun computer => computer.setTime (hardware.aloft unnoticed) time) :=
  setTime_holding hardware .empty (fun _ => ()) pause unnoticed time

/-- What is done with every inbox leaves the inbox as it is. -/
theorem runCycle_inbox {computer after : Computer (Aloft Delay Devices)} {report : CycleReport}
    (ran : computer.runCycle (hardware.aloft pause) config = .ok (report, after)) :
    after.inbox = computer.inbox := by
  have kept := runCycle_holding hardware computer.inbox
    (show ∀ millis delay, pause millis (id delay) = id (pause millis delay) from fun _ _ => rfl)
    config computer
  rw [holding_inbox, ran] at kept
  have same : after = after.holding computer.inbox id := (Prod.mk.inj (Except.ok.inj kept)).2
  exact (congrArg inbox same).trans (inbox_holding _ _ _)

theorem flush_inbox (computer : Computer (Aloft Delay Devices)) :
    (computer.flush (hardware.aloft pause)).2.inbox = computer.inbox := by
  have kept := flush_holding hardware computer.inbox id pause pause computer
  rw [holding_inbox] at kept
  exact congrArg (fun done => done.2.inbox) kept

theorem setTime_inbox (time : Duration) (computer : Computer (Aloft Delay Devices)) :
    (computer.setTime (hardware.aloft pause) time).2.inbox = computer.inbox := by
  have kept := setTime_holding hardware computer.inbox id pause pause time computer
  rw [holding_inbox] at kept
  exact congrArg (fun done => done.2.inbox) kept

theorem obey_inbox (request : GroundRequest) (computer : Computer (Aloft Delay Devices)) :
    (computer.obey (hardware.aloft pause) request).inbox = computer.inbox := by
  cases request with
  | none => rfl
  | sendBeacon => rfl
  | reboot => exact flush_inbox hardware pause computer

end Computer

/-- A frame that is no order: too short or too long for one, or without the security code. -/
def Comm.Forged (code : UInt32) (content : Bytes) : Prop :=
  content.length < 5 ∨ maxDownlinkSize < content.length ∨
    ¬ Bytes.bigEndian 4 code.toNat <+: content

theorem Comm.Forged.ofContent_eq {code : UInt32} {content : Bytes}
    (forged : Forged code content) : GroundRequest.ofContent code content = .none := by
  rw [GroundRequest.ofContent_eq_none_iff]
  rintro command ⟨short, rest, rfl⟩
  rcases forged with tooShort | tooLong | unauthorised
  · simp [Bytes.bigEndian] at tooShort
    omega
  · exact absurd short (Nat.not_le.mpr tooLong)
  · exact unauthorised (List.prefix_append _ _)

/-- One queue has all frames of another one, and beside them frames that ask for nothing. -/
structure Padded (code : UInt32) (plain crowded : List Bytes) : Prop where
  sublist : plain.Sublist crowded
  orders : crowded.filter (fun content => GroundRequest.ofContent code content ≠ .none) =
    plain.filter fun content => GroundRequest.ofContent code content ≠ .none

namespace Padded

variable {code : UInt32} {plain crowded : List Bytes}

theorem refl (code : UInt32) (queue : List Bytes) : Padded code queue queue :=
  ⟨.refl queue, rfl⟩

theorem append (padded : Padded code plain crowded) (frame : Bytes) :
    Padded code (plain ++ [frame]) (crowded ++ [frame]) where
  sublist := padded.sublist.append (.refl _)
  orders := by rw [List.filter_append, List.filter_append, padded.orders]

theorem insert (padded : Padded code plain crowded) {frame : Bytes}
    (forged : Comm.Forged code frame) (position : Nat) :
    Padded code plain (crowded.take position ++ frame :: crowded.drop position) where
  sublist := by
    refine padded.sublist.trans ?_
    have inserted : (crowded.take position ++ crowded.drop position).Sublist
        (crowded.take position ++ frame :: crowded.drop position) :=
      (List.Sublist.refl _).append (List.sublist_cons_self _ _)
    rwa [List.take_append_drop] at inserted
  orders := by
    rw [← padded.orders, List.filter_append,
      List.filter_cons_of_neg (by simp [forged.ofContent_eq]), ← List.filter_append,
      List.take_append_drop]

theorem ofQueue_eq (padded : Padded code plain crowded) :
    GroundRequest.ofQueue code crowded = GroundRequest.ofQueue code plain := by
  rw [← GroundRequest.ofQueue_filter, padded.orders, GroundRequest.ofQueue_filter]

end Padded

namespace Computer

/-- Two computers that differ in what frames without an order have left in the inbox. -/
structure Alike (code : UInt32) (plain crowded : Computer (Aloft Delay Devices)) : Prop where
  outward : crowded.outward = plain.outward
  uplink : Padded code plain.inbox.uplink crowded.inbox.uplink

variable {hardware pause config}

theorem Alike.errorLimit_eq {code : UInt32} {plain crowded : Computer (Aloft Delay Devices)}
    (alike : Alike code plain crowded) : crowded.errorLimit = plain.errorLimit :=
  congrArg (fun computer : Computer (Aloft Unit Devices) => computer.errorLimit) alike.outward

theorem Alike.offline_eq {code : UInt32} {plain crowded : Computer (Aloft Delay Devices)}
    (alike : Alike code plain crowded) :
    crowded.env.transceiver.offline = plain.env.transceiver.offline :=
  congrArg (fun computer : Computer (Aloft Unit Devices) => computer.env.transceiver.offline)
    alike.outward

/-- Alike computers that have heard the same request from alike radios stay alike. -/
theorem Alike.obey {code : UInt32} {plain crowded : Computer (Aloft Delay Devices)}
    (alike : Alike code plain crowded) {quiet busy : Radio (Guarded (Aloft Delay Devices))}
    (shown : busy.holding .empty (fun _ => ()) = quiet.holding .empty fun _ => ())
    (padded : Padded code quiet.env.env.transceiver.uplink busy.env.env.transceiver.uplink)
    (request : GroundRequest) :
    Alike code ((radioPart.set quiet plain).obey (hardware.aloft pause) request)
      ((radioPart.set busy crowded).obey (hardware.aloft pause) request) where
  outward := by
    rw [obey_outward, obey_outward]
    congr 1
    have parts : radioPart.set (busy.holding .empty fun _ => ()) crowded.outward =
        radioPart.set (quiet.holding .empty fun _ => ()) plain.outward := by
      rw [shown, alike.outward]
    exact parts
  uplink := by
    rw [obey_inbox, obey_inbox]
    exact padded

theorem Alike.poll {plain crowded : Computer (Aloft Delay Devices)}
    (alike : Alike config.securityCode plain crowded)
    (room : crowded.inbox.uplink.length ≤ 65535) :
    (crowded.poll (hardware.aloft pause) config).1 = (plain.poll (hardware.aloft pause) config).1 ∧
      Alike config.securityCode (plain.poll (hardware.aloft pause) config).2
        (crowded.poll (hardware.aloft pause) config).2 := by
  have radios : (radioPart.get crowded).holding .empty (fun _ => ()) =
      (radioPart.get plain).holding .empty fun _ => () :=
    congrArg radioPart.get alike.outward
  rw [poll_eq, poll_eq, alike.errorLimit_eq]
  cases online : plain.env.transceiver.offline with
  | false =>
      have fewer : plain.inbox.uplink.length ≤ 65535 :=
        Nat.le_trans alike.uplink.sublist.length_le room
      obtain ⟨asked, shown, emptied⟩ := Radio.poll_online hardware pause plain.errorLimit
        config.securityCode (radioPart.get plain) online
      obtain ⟨askedToo, shownToo, emptiedToo⟩ := Radio.poll_online hardware pause plain.errorLimit
        config.securityCode (radioPart.get crowded) (alike.offline_eq.trans online)
      rw [Transceiver.announced_of_le (by exact fewer)] at asked emptied
      rw [Transceiver.announced_of_le (by exact room)] at askedToo emptiedToo
      rw [List.drop_length] at emptied emptiedToo
      have same := askedToo.trans (alike.uplink.ofQueue_eq.trans asked.symm)
      rw [same]
      refine ⟨rfl, alike.obey ?_ ?_ _⟩
      · rw [shownToo, shown, radios]
      · rw [emptied, emptiedToo]
        exact .refl _ _
  | true =>
      rw [Radio.poll_offline hardware pause _ _ (radioPart.get plain) online,
        Radio.poll_offline hardware pause _ _ (radioPart.get crowded)
          (alike.offline_eq.trans online)]
      have untouched (radio : Radio (Guarded (Aloft Delay Devices))) :
          (radio.ignored hardware pause plain.errorLimit).env.env.transceiver =
            radio.env.env.transceiver := by
        simp only [Radio.ignored, Hardware.missed_transceiver]
      dsimp only
      refine ⟨rfl, alike.obey ?_ ?_ _⟩
      · rw [Radio.ignored_holding hardware pause _ _ .empty _ unnoticed,
          Radio.ignored_holding hardware pause _ _ .empty _ unnoticed, radios]
      · rw [untouched, untouched]
        exact alike.uplink

end Computer

/-- A call of the computer, or something that happens between two calls. -/
inductive Event (Devices : Type v) where
  | cycle
  | poll
  | requestSail
  | setTime (time : Duration)
  | set (setting : Setting)
  /-- The devices other than the transceiver change. -/
  | elapse (change : Devices → Devices)
  /-- A frame comes up and waits at the end of the receiver's queue. -/
  | uplink (frame : Bytes)
  | switch (offline : Bool)
  /-- All frames that wait for downlink go out over the air. -/
  | transmitAll
  /-- A frame comes up and takes any place in the receiver's queue. -/
  | slip (position : Nat) (frame : Bytes)

inductive Answer where
  | report (report : CycleReport)
  | request (request : GroundRequest)
  | accepted (accepted : Bool)
  | frames (frames : List Bytes)
  | silence

namespace Event

variable {hardware pause config}

def isSlip : Event Devices → Bool
  | slip _ _ => true
  | _ => false

def tune (change : Transceiver → Transceiver) (computer : Computer (Aloft Delay Devices)) :
    Computer (Aloft Delay Devices) :=
  { computer with
    env := { computer.env with transceiver := change computer.env.transceiver } }

/-- Puts a frame into the receiver's queue, at the end if the place is beyond it. -/
def slipped (position : Nat) (frame : Bytes) (computer : Computer (Aloft Delay Devices)) :
    Computer (Aloft Delay Devices) :=
  tune (fun device =>
    { device with
      uplink := device.uplink.take position ++ frame :: device.uplink.drop position }) computer

variable (hardware pause config) in
def perform (computer : Computer (Aloft Delay Devices)) :
    Event Devices → Except Fault (Answer × Computer (Aloft Delay Devices))
  | cycle =>
      (computer.runCycle (hardware.aloft pause) config).map fun (report, after) =>
        (.report report, after)
  | poll =>
      let done := computer.poll (hardware.aloft pause) config
      .ok (.request done.1, done.2)
  | requestSail => .ok (.accepted computer.requestSail.1, computer.requestSail.2)
  | setTime time =>
      let done := computer.setTime (hardware.aloft pause) time
      .ok (.accepted done.1, done.2)
  | set setting => .ok (.silence, computer.set setting)
  | elapse change =>
      .ok (.silence,
        { computer with env := { computer.env with devices := change computer.env.devices } })
  | uplink frame => .ok (.silence, tune (Transceiver.receiveFrame frame) computer)
  | switch offline => .ok (.silence, tune (fun device => { device with offline }) computer)
  | transmitAll =>
      .ok (.frames computer.env.transceiver.downlink,
        tune (fun device => device.transmitAll.2) computer)
  | slip position frame => .ok (.silence, slipped position frame computer)

/-- Two computers have stopped at the same fault, or given the same answer and stayed alike. -/
def Agree (code : UInt32) (quiet busy : Except Fault (Answer × Computer (Aloft Delay Devices))) :
    Prop :=
  (∃ fault, quiet = .error fault ∧ busy = .error fault) ∨
    ∃ answer plain crowded, quiet = .ok (answer, plain) ∧ busy = .ok (answer, crowded) ∧
      Computer.Alike code plain crowded

variable {plain crowded : Computer (Aloft Delay Devices)}

/-- An operation that commutes with the view from outside gives alike computers the same answer. -/
theorem agree_of_commutes {code : UInt32} (alike : Computer.Alike code plain crowded)
    (operation : Computer (Aloft Delay Devices) → Answer × Computer (Aloft Delay Devices))
    (image : Computer (Aloft Unit Devices) → Answer × Computer (Aloft Unit Devices))
    (commutes : Commutes Computer.outward operation image)
    (padded : Padded code (operation plain).2.inbox.uplink (operation crowded).2.inbox.uplink) :
    Agree code (.ok (operation plain)) (.ok (operation crowded)) := by
  have same := congrArg image alike.outward
  rw [commutes crowded, commutes plain] at same
  obtain ⟨answers, outward⟩ := Prod.mk.inj same
  refine .inr ⟨(operation plain).1, (operation plain).2, (operation crowded).2, rfl, ?_, ?_⟩
  · rw [← answers]
  · exact ⟨outward, padded⟩

theorem agree_cycle (alike : Computer.Alike config.securityCode plain crowded) :
    Agree config.securityCode (perform hardware pause config plain cycle)
      (perform hardware pause config crowded cycle) := by
  have same := congrArg (fun computer => computer.runCycle (hardware.aloft Computer.unnoticed)
    config) alike.outward
  simp only [Computer.runCycle_outward hardware pause config] at same
  simp only [perform]
  rcases quiet : plain.runCycle (hardware.aloft pause) config with fault | ⟨report, after⟩
  · rcases busy : crowded.runCycle (hardware.aloft pause) config with fault' | ⟨report', after'⟩
    · rw [quiet, busy] at same
      obtain rfl := Except.error.inj same
      exact .inl ⟨fault', rfl, rfl⟩
    · rw [quiet, busy] at same
      cases same
  · rcases busy : crowded.runCycle (hardware.aloft pause) config with fault' | ⟨report', after'⟩
    · rw [quiet, busy] at same
      cases same
    · rw [quiet, busy] at same
      obtain ⟨reports, outward⟩ := Prod.mk.inj (Except.ok.inj same)
      refine .inr ⟨.report report, after, after', rfl, ?_, outward, ?_⟩
      · exact congrArg (fun report => Except.ok (Answer.report report, after')) reports
      · rw [Computer.runCycle_inbox hardware pause config quiet,
          Computer.runCycle_inbox hardware pause config busy]
        exact alike.uplink

theorem agree_perform (alike : Computer.Alike config.securityCode plain crowded)
    (event : Event Devices) (genuine : event.isSlip = false)
    (room : event = .poll → crowded.inbox.uplink.length ≤ 65535) :
    Agree config.securityCode (perform hardware pause config plain event)
      (perform hardware pause config crowded event) := by
  cases event with
  | cycle => exact agree_cycle alike
  | poll =>
      obtain ⟨requests, after⟩ := alike.poll (room rfl)
      refine .inr ⟨_, _, _, rfl, ?_, after⟩
      simp only [perform, requests]
  | requestSail =>
      exact agree_of_commutes alike
        (fun computer => (.accepted computer.requestSail.1, computer.requestSail.2))
        (fun computer => (.accepted computer.requestSail.1, computer.requestSail.2))
        (fun _ => rfl) alike.uplink
  | setTime time =>
      refine agree_of_commutes alike
        (fun computer => (.accepted (computer.setTime (hardware.aloft pause) time).1,
          (computer.setTime (hardware.aloft pause) time).2))
        (fun computer => (.accepted (computer.setTime (hardware.aloft Computer.unnoticed) time).1,
          (computer.setTime (hardware.aloft Computer.unnoticed) time).2)) ?_ ?_
      · intro computer
        simp only [Computer.setTime_outward hardware pause time computer]
      · simp only [Computer.setTime_inbox]
        exact alike.uplink
  | set setting =>
      exact agree_of_commutes alike (fun computer => (.silence, computer.set setting))
        (fun computer => (.silence, computer.set setting)) (fun _ => rfl) alike.uplink
  | elapse change =>
      exact agree_of_commutes alike
        (fun computer => (.silence,
          { computer with env := { computer.env with devices := change computer.env.devices } }))
        (fun computer => (.silence,
          { computer with env := { computer.env with devices := change computer.env.devices } }))
        (fun _ => rfl) alike.uplink
  | uplink frame =>
      exact agree_of_commutes alike
        (fun computer => (.silence, tune (Transceiver.receiveFrame frame) computer))
        (fun computer => (.silence, computer)) (fun _ => rfl) (alike.uplink.append frame)
  | switch offline =>
      exact agree_of_commutes alike
        (fun computer => (.silence, tune (fun device => { device with offline }) computer))
        (fun computer => (.silence, tune (fun device => { device with offline }) computer))
        (fun _ => rfl) alike.uplink
  | transmitAll =>
      exact agree_of_commutes alike
        (fun computer => (.frames computer.env.transceiver.downlink,
          tune (fun device => device.transmitAll.2) computer))
        (fun computer => (.frames computer.env.transceiver.downlink,
          tune (fun device => device.transmitAll.2) computer))
        (fun _ => rfl) alike.uplink
  | slip position frame => cases genuine

theorem alike_slip {code : UInt32} (alike : Computer.Alike code plain crowded) (position : Nat)
    {frame : Bytes} (forged : Comm.Forged code frame) :
    Computer.Alike code plain (slipped position frame crowded) where
  outward := alike.outward
  uplink := alike.uplink.insert forged position

end Event

namespace Computer

/--
What is to be seen of a run: after every event its answer and the computer from
outside. A fault ends the run. That a frame is slipped in is not seen.
-/
def observe : List (Event Devices) → Computer (Aloft Delay Devices) →
    List (Except Fault (Answer × Computer (Aloft Unit Devices)))
  | [], _ => []
  | event :: rest, computer =>
      match event.perform hardware pause config computer with
      | .error fault => [.error fault]
      | .ok (answer, after) =>
          if event.isSlip then observe rest after
          else .ok (answer, after.outward) :: observe rest after

/-- At every poll of a run the receiver's count of frames is exact. -/
def Roomy : List (Event Devices) → Computer (Aloft Delay Devices) → Prop
  | [], _ => True
  | event :: rest, computer =>
      (event = .poll → computer.inbox.uplink.length ≤ 65535) ∧
        match event.perform hardware pause config computer with
        | .error _ => True
        | .ok (_, after) => Roomy rest after

variable {hardware pause config}

theorem Alike.observe_eq {events : List (Event Devices)}
    (forged : ∀ position frame, .slip position frame ∈ events →
      Comm.Forged config.securityCode frame)
    {plain crowded : Computer (Aloft Delay Devices)}
    (alike : Alike config.securityCode plain crowded)
    (roomy : Roomy hardware pause config events crowded) :
    observe hardware pause config events crowded =
      observe hardware pause config (events.filter fun event => !event.isSlip) plain := by
  induction events generalizing plain crowded with
  | nil => rfl
  | cons event rest inductionHypothesis =>
      have later : ∀ position frame, .slip position frame ∈ rest →
          Comm.Forged config.securityCode frame := fun position frame membership =>
        forged position frame (List.mem_cons_of_mem _ membership)
      obtain ⟨room, roomyNext⟩ := roomy
      cases slip : event.isSlip with
      | true =>
          cases event with
          | slip position frame =>
              have slipped := Event.alike_slip alike position (forged position frame
                List.mem_cons_self)
              exact inductionHypothesis later slipped roomyNext
          | _ => cases slip
      | false =>
          rw [List.filter_cons_of_pos (by simp [slip])]
          unfold observe
          rcases Event.agree_perform alike event slip room with
            ⟨fault, quiet, busy⟩ | ⟨answer, plainNext, crowdedNext, quiet, busy, alikeNext⟩
          · rw [quiet, busy]
          · rw [busy] at roomyNext
            rw [quiet, busy]
            simp only [slip, Bool.false_eq_true, if_false, alikeNext.outward,
              inductionHypothesis later alikeNext roomyNext]

/--
Frames that are no orders have no influence: a run with any number of them looks
from outside like the same run without them.
-/
theorem observe_eq_of_forged {events : List (Event Devices)}
    {computer : Computer (Aloft Delay Devices)}
    (forged : ∀ position frame, .slip position frame ∈ events →
      Comm.Forged config.securityCode frame)
    (roomy : Roomy hardware pause config events computer) :
    observe hardware pause config events computer =
      observe hardware pause config (events.filter fun event => !event.isSlip) computer :=
  Alike.observe_eq forged ⟨rfl, .refl _ _⟩ roomy

theorem observe_eq_of_forged_short :
    let computer : Computer (Aloft Unit Bench) :=
      ofSettings .initial { transceiver := .idle, delay := (), devices := .fresh }
    let events := [.slip 0 [0x01, 0x02, 0x03],
      .uplink (Transceiver.commandFrame Comm.defaultSecurityCode Comm.beaconCommand), .poll, .cycle]
    (∀ position frame, .slip position frame ∈ events →
        Comm.Forged MissionConfig.standard.securityCode frame) ∧
      Roomy (Bench.hardware true) unnoticed .standard events computer ∧
        observe (Bench.hardware true) unnoticed .standard events computer =
          observe (Bench.hardware true) unnoticed .standard events.tail computer := by
  intro computer events
  have forged : ∀ position frame, .slip position frame ∈ events →
      Comm.Forged MissionConfig.standard.securityCode frame := by
    intro position frame membership
    simp only [events, List.mem_cons, List.not_mem_nil, or_false, Event.slip.injEq,
      reduceCtorEq] at membership
    rw [membership.2]
    exact .inl (by decide)
  have roomy : Roomy (Bench.hardware true) unnoticed .standard events computer := by
    refine ⟨nofun, nofun, fun _ => by decide, nofun, ?_⟩
    split
    · trivial
    · trivial
  exact ⟨forged, roomy, observe_eq_of_forged forged roomy⟩

end Computer

end Computer

end Cubesat
