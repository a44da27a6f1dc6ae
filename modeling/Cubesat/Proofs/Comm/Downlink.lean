import Cubesat.Proofs.Comm.Drain

/-!
The transmitter's queue over any sequence of calls.

The radio learns whether a frame has been queued from a single byte, which it
reads after the write that queued the frame. That byte tells the truth at every
fill level, so that the frames whose sending was reported as a success are the
ones that are transmitted or still wait: in order, and each of them once.
-/

namespace Cubesat

universe u

namespace Transceiver

def Admits (frame : Bytes) (device : Transceiver) : Prop :=
  device.offline = false ∧ frame.length ≤ Comm.maxDownlinkSize

instance (frame : Bytes) (device : Transceiver) : Decidable (device.Admits frame) :=
  inferInstanceAs (Decidable (device.offline = false ∧ frame.length ≤ Comm.maxDownlinkSize))

/-- The byte that answers a frame while the queue holds this many others. -/
def vacancy (queued : Nat) : UInt8 :=
  UInt8.ofNat (downlinkCapacity - (queued + 1))

theorem vacancy_ne_frameRefused (queued : Nat) : vacancy queued ≠ Comm.frameRefused := by
  intro same
  have value := congrArg UInt8.toNat same
  rw [vacancy, UInt8.toNat_ofNat'] at value
  simp only [downlinkCapacity, Comm.frameRefused, UInt8.reduceToNat] at value
  omega

def queued (frame : Bytes) (device : Transceiver) : Transceiver :=
  { device with
    downlink := device.downlink ++ [frame]
    transmitterAnswer := [vacancy device.downlink.length] }

def refused (device : Transceiver) : Transceiver :=
  { device with transmitterAnswer := [Comm.frameRefused] }

section Online

variable {device : Transceiver} (online : device.offline = false)

include online

theorem onWrite_sendFrame (frame : Bytes) :
    device.onWrite Comm.transmitterAddress (Comm.sendFrameCommand :: frame) =
      (.ok (), if device.downlink.length < downlinkCapacity then device.queued frame
        else device.refused) := by
  by_cases room : device.downlink.length < downlinkCapacity
  · simp [onWrite, online, transmitterCommand, Comm.transmitterAddress, Comm.receiverAddress, room,
      queued, vacancy]
  · simp [onWrite, online, transmitterCommand, Comm.transmitterAddress, Comm.receiverAddress, room,
      refused]

theorem onRead_transmitter {answer : UInt8} (answered : device.transmitterAnswer = [answer]) :
    device.onRead Comm.transmitterAddress (Bytes.zeros 1).length = (.ok (), [answer]) := by
  simp [onRead, online, answered, Comm.transmitterAddress, Comm.receiverAddress, Bytes.fitted,
    Bytes.zeros]

end Online

end Transceiver

open Transceiver (downlinkCapacity link)

namespace Link

variable {Env : Type u} {link : Link Env} {device : Env → Transceiver}
  {settles : Env → Env → Prop} (serves : link.Serves device settles) {radio : Radio Env}
  {frame : Bytes} (admits : (device radio.env).Admits frame)

include serves admits

/-- Over whatever link a transceiver with room is served, it queues a frame. -/
theorem Serves.sendFrame_of_room
    (room : (device radio.env).downlink.length < downlinkCapacity) :
    (radio.sendFrame link frame).1 = true ∧
      (radio.sendFrame link frame).2.stats =
        { radio.stats with framesSent := radio.stats.framesSent.bump } ∧
      device (radio.sendFrame link frame).2.env = (device radio.env).queued frame := by
  have taken := Transceiver.onWrite_sendFrame admits.1 frame
  rw [if_pos room] at taken
  have stillOnline : ((device radio.env).queued frame).offline = false := admits.1
  have answered := serves.request taken (Transceiver.onRead_transmitter stillOnline rfl) rfl
  unfold Radio.sendFrame
  rw [if_neg (Nat.not_lt.mpr admits.2)]
  simp only [answered.answer, if_true, List.cons.injEq, and_true,
    Transceiver.vacancy_ne_frameRefused, if_false]
  exact ⟨trivial, trivial, answered.device⟩

theorem Serves.sendFrame_of_full
    (full : ¬ (device radio.env).downlink.length < downlinkCapacity) :
    (radio.sendFrame link frame).1 = false ∧
      (radio.sendFrame link frame).2.stats =
        { radio.stats with framesRejected := radio.stats.framesRejected.bump } ∧
      device (radio.sendFrame link frame).2.env = (device radio.env).refused := by
  have taken := Transceiver.onWrite_sendFrame admits.1 frame
  rw [if_neg full] at taken
  have stillOnline : (device radio.env).refused.offline = false := admits.1
  have answered := serves.request taken (Transceiver.onRead_transmitter stillOnline rfl) rfl
  unfold Radio.sendFrame
  rw [if_neg (Nat.not_lt.mpr admits.2)]
  simp only [answered.answer, if_true]
  exact ⟨trivial, trivial, answered.device⟩

end Link

variable {Delay : Type u} (pause : Nat → Delay → Delay)

namespace Link

variable (env : Transceiver × Delay) (frame : Bytes)

theorem request_offline (offline : env.1.offline = true) (address : Address)
    (request buffer : Bytes) :
    (link pause).request address request buffer env = ((false, buffer), env) := by
  cases request with
  | nil => rfl
  | cons byte rest =>
      simp [Link.request, link, Bus.through, Lens.lift, Lens.fst, Transceiver.bus,
        Transceiver.onWrite, offline]

theorem send_offline (offline : env.1.offline = true) (address : Address) (data : Bytes) :
    (link pause).send address data env = (false, env) := by
  simp [Link.send, link, Bus.through, Lens.lift, Lens.fst, Transceiver.bus, Transceiver.onWrite,
    offline, succeeded]

theorem downlink_setBitRate (rate : Comm.BitRate) :
    ((link pause).setBitRate rate env).2.1.downlink = env.1.downlink := by
  by_cases offline : env.1.offline = true
  · rw [Link.setBitRate, send_offline pause env offline]
  · simp [Link.setBitRate, Link.send, link, Bus.through, Lens.lift, Lens.fst, Transceiver.bus,
      Transceiver.onWrite, offline, Comm.transmitterAddress, Comm.receiverAddress,
      Transceiver.transmitterCommand, Comm.bitRateCommand, Comm.sendFrameCommand,
      Comm.resetWatchdogCommand]

end Link

namespace Radio

variable (radio : Radio (Transceiver × Delay)) (frame : Bytes)

theorem sendFrame_of_not_admits (refuses : ¬ radio.env.1.Admits frame) :
    radio.sendFrame (link pause) frame = (false, radio) := by
  by_cases long : Comm.maxDownlinkSize < frame.length
  · exact if_pos long
  · have offline : radio.env.1.offline = true := by
      cases offline : radio.env.1.offline with
      | true => rfl
      | false => exact absurd ⟨offline, Nat.not_lt.mp long⟩ refuses
    unfold sendFrame
    rw [if_neg long, Link.request_offline pause _ offline]
    rfl

/-- What the radio reports of a frame that it has sent, and what has become of the frame. -/
structure Sent (frame : Bytes) (before : Radio (Transceiver × Delay))
    (done : Bool × Radio (Transceiver × Delay)) : Prop where
  reported : done.1 = true ↔
    before.env.1.Admits frame ∧ before.env.1.downlink.length < downlinkCapacity
  queue : done.2.env.1.downlink = before.env.1.downlink ++ if done.1 then [frame] else []
  sent : done.2.stats.framesSent = before.stats.framesSent.add (if done.1 then 1 else 0)
  rejected : done.2.stats.framesRejected = before.stats.framesRejected.add
    (if before.env.1.Admits frame ∧ downlinkCapacity ≤ before.env.1.downlink.length then 1
      else 0)

theorem sendFrame_sent : Sent frame radio (radio.sendFrame (link pause) frame) := by
  by_cases admits : radio.env.1.Admits frame
  · by_cases room : radio.env.1.downlink.length < downlinkCapacity
    · obtain ⟨answer, stats, device⟩ :=
        (Transceiver.link_serves pause).sendFrame_of_room admits room
      exact
        { reported := by simp [answer, admits, room]
          queue := by simp [answer, device, Transceiver.queued]
          sent := by simp [answer, stats, Tally.add_one]
          rejected := by simp [stats, Nat.not_le.mpr room] }
    · obtain ⟨answer, stats, device⟩ :=
        (Transceiver.link_serves pause).sendFrame_of_full admits room
      exact
        { reported := by simp [answer, room]
          queue := by simp [answer, device, Transceiver.refused]
          sent := by simp [answer, stats]
          rejected := by simp [stats, admits, Nat.not_lt.mp room, Tally.add_one] }
  · rw [radio.sendFrame_of_not_admits pause frame admits]
    exact
      { reported := by simp [admits]
        queue := by simp
        sent := by simp
        rejected := by simp [admits] }

theorem poll_of_offline (code : UInt32) (offline : radio.env.1.offline = true) :
    radio.poll (link pause) code = (.none, radio) := by
  have watchdog (address : Address) :
      radio.resetWatchdog (link pause) address = (false, radio) := by
    unfold resetWatchdog
    rw [Link.send_offline pause _ offline]
    rfl
  have announced : (link pause).frameCount? radio.env = (none, radio.env) := by
    unfold Link.frameCount?
    rw [Link.request_offline pause _ offline]
    rfl
  unfold poll
  rw [announced]
  simp only [Option.getD_none, processFrames, watchdog]

end Radio

/-- What the flight computer asks of its radio, and what happens to the transceiver meanwhile. -/
inductive RadioEvent where
  | send (frame : Bytes)
  | poll (code : UInt32)
  | setBitRate (rate : Comm.BitRate)
  | uplink (frame : Bytes)
  | switch (offline : Bool)
  | transmitAll
  deriving DecidableEq

/-- A radio with an account of the frames that have been offered to it. -/
structure Traffic (Delay : Type u) where
  radio : Radio (Transceiver × Delay)
  /-- The frames whose sending was reported as a success, oldest first. -/
  accepted : List Bytes
  /-- What the transceiver has transmitted, oldest first. -/
  transmitted : List Bytes
  /-- The frames of a valid size that found the queue of an online transceiver full. -/
  overflows : Nat

namespace Traffic

def start (radio : Radio (Transceiver × Delay)) : Traffic Delay :=
  { radio, accepted := [], transmitted := [], overflows := 0 }

def queue (traffic : Traffic Delay) : List Bytes :=
  traffic.radio.env.1.downlink

def onDevice (change : Transceiver → Transceiver) (traffic : Traffic Delay) : Traffic Delay :=
  { traffic with
    radio := { traffic.radio with env := (change traffic.radio.env.1, traffic.radio.env.2) } }

def after (traffic : Traffic Delay) : RadioEvent → Traffic Delay
  | .send frame =>
      let done := traffic.radio.sendFrame (link pause) frame
      { radio := done.2
        accepted := traffic.accepted ++ if done.1 then [frame] else []
        transmitted := traffic.transmitted
        overflows := traffic.overflows +
          if traffic.radio.env.1.Admits frame ∧ downlinkCapacity ≤ traffic.queue.length then 1
          else 0 }
  | .poll code => { traffic with radio := (traffic.radio.poll (link pause) code).2 }
  | .setBitRate rate =>
      { traffic with
        radio := { traffic.radio with
          env := ((link pause).setBitRate rate traffic.radio.env).2 } }
  | .uplink frame => traffic.onDevice (Transceiver.receiveFrame frame)
  | .switch offline => traffic.onDevice fun device => { device with offline }
  | .transmitAll =>
      let done := traffic.radio.env.1.transmitAll
      { traffic.onDevice fun _ => done.2 with transmitted := traffic.transmitted ++ done.1 }

def run (traffic : Traffic Delay) (events : List RadioEvent) : Traffic Delay :=
  events.foldl (after pause) traffic

/-- Every frame that was accepted has been transmitted or waits; and the counters agree. -/
structure Balanced (start : Radio (Transceiver × Delay)) (traffic : Traffic Delay) : Prop where
  kept : traffic.transmitted ++ traffic.queue = start.env.1.downlink ++ traffic.accepted
  bounded : traffic.queue.length ≤ downlinkCapacity
  sent : traffic.radio.stats.framesSent = start.stats.framesSent.add traffic.accepted.length
  rejected : traffic.radio.stats.framesRejected = start.stats.framesRejected.add traffic.overflows

variable {start : Radio (Transceiver × Delay)} {traffic : Traffic Delay}

/-- What is neither a send nor a transmission keeps the queue and the counters of sends. -/
theorem Balanced.of_kept (balanced : Balanced start traffic)
    {later : Radio (Transceiver × Delay)}
    (downlink : later.env.1.downlink = traffic.radio.env.1.downlink)
    (sent : later.stats.framesSent = traffic.radio.stats.framesSent)
    (rejected : later.stats.framesRejected = traffic.radio.stats.framesRejected) :
    Balanced start { traffic with radio := later } where
  kept := by
    rw [queue, downlink]
    exact balanced.kept
  bounded := by
    rw [queue, downlink]
    exact balanced.bounded
  sent := sent.trans balanced.sent
  rejected := rejected.trans balanced.rejected

theorem Balanced.send (balanced : Balanced start traffic) (frame : Bytes) :
    Balanced start (traffic.after pause (.send frame)) := by
  have sent := traffic.radio.sendFrame_sent pause frame
  refine { kept := ?_, bounded := ?_, sent := ?_, rejected := ?_ }
  · simp only [Traffic.after, queue, sent.queue]
    rw [← List.append_assoc, ← List.append_assoc]
    exact congrArg (· ++ _) balanced.kept
  · simp only [Traffic.after, queue, sent.queue]
    split
    · next reported =>
      rw [List.length_append]
      exact (sent.reported.mp reported).2
    · rw [List.append_nil]
      exact balanced.bounded
  · simp only [Traffic.after, sent.sent, balanced.sent, Tally.add_add, List.length_append]
    split <;> rfl
  · simp only [Traffic.after, sent.rejected, balanced.rejected, Tally.add_add]
    rfl

theorem Balanced.poll (balanced : Balanced start traffic) (code : UInt32) :
    Balanced start (traffic.after pause (.poll code)) := by
  rw [Traffic.after]
  by_cases offline : traffic.radio.env.1.offline = true
  · rw [traffic.radio.poll_of_offline pause code offline]
    exact balanced
  · obtain ⟨-, stats, ⟨answer, device⟩, -⟩ :=
      Radio.poll_serves (Transceiver.link_serves pause) code traffic.radio (by simpa using offline)
    apply balanced.of_kept
    · rw [device]
      rfl
    · rw [stats]
      rfl
    · rw [stats]
      rfl

theorem Balanced.transmitAll (balanced : Balanced start traffic) :
    Balanced start (traffic.after pause .transmitAll) where
  kept := (List.append_nil _).trans balanced.kept
  bounded := Nat.zero_le _
  sent := balanced.sent
  rejected := balanced.rejected

theorem Balanced.after (balanced : Balanced start traffic) (event : RadioEvent) :
    Balanced start (traffic.after pause event) := by
  cases event with
  | send frame => exact balanced.send pause frame
  | poll code => exact balanced.poll pause code
  | setBitRate rate =>
      apply balanced.of_kept
      · exact Link.downlink_setBitRate pause _ rate
      · rfl
      · rfl
  | uplink frame => exact balanced.of_kept rfl rfl rfl
  | switch offline => exact balanced.of_kept rfl rfl rfl
  | transmitAll => exact balanced.transmitAll pause

theorem Balanced.run (balanced : Balanced start traffic) (events : List RadioEvent) :
    Balanced start (traffic.run pause events) := by
  induction events generalizing traffic with
  | nil => exact balanced
  | cons event events inductionHypothesis => exact inductionHypothesis (balanced.after pause event)

/--
No frame is lost and none is sent twice. Sending is reported as a success if
and only if the transceiver is online, the frame is not too long and there is
room in the queue. The frames of all successes, in order, are those that have
been transmitted and those that still wait; the statistics count them, and the
frames that found the queue full.
-/
theorem keeps_accepted (start : Radio (Transceiver × Delay))
    (room : start.env.1.downlink.length ≤ downlinkCapacity) (events : List RadioEvent) :
    let later := (Traffic.start start).run pause events
    later.transmitted ++ later.queue = start.env.1.downlink ++ later.accepted ∧
      later.queue.length ≤ downlinkCapacity ∧
      later.radio.stats.framesSent = start.stats.framesSent.add later.accepted.length ∧
      later.radio.stats.framesRejected = start.stats.framesRejected.add later.overflows ∧
      ∀ frame : Bytes,
        let result := later.radio.sendFrame (link pause) frame
        (result.1 = true ↔ later.radio.env.1.offline = false ∧
          frame.length ≤ Comm.maxDownlinkSize ∧ later.queue.length < downlinkCapacity) ∧
          result.2.env.1.downlink = later.queue ++ if result.1 then [frame] else [] := by
  intro later
  have opening : Balanced start (Traffic.start start) :=
    { kept := (List.append_nil _).symm
      bounded := room
      sent := (Tally.add_zero _).symm
      rejected := (Tally.add_zero _).symm }
  have balanced : Balanced start later := opening.run pause events
  refine ⟨balanced.kept, balanced.bounded, balanced.sent, balanced.rejected, ?_⟩
  intro frame result
  have sent : Radio.Sent frame later.radio result := later.radio.sendFrame_sent pause frame
  refine ⟨?_, sent.queue⟩
  rw [← and_assoc]
  exact sent.reported

/-- A frame too many, the longest frame, one that is longer still, and one that nobody hears. -/
theorem keeps_accepted_crowded :
    let start := Radio.start (Transceiver.idle, ())
    let events := List.replicate 41 (.send [0x5A]) ++
      [.transmitAll, .send (Bytes.zeros 235), .send (Bytes.zeros 236), .switch true, .send []]
    let later := (Traffic.start start).run (fun _ _ => ()) events
    start.env.1.downlink.length ≤ downlinkCapacity ∧
      later.accepted = List.replicate 40 [0x5A] ++ [Bytes.zeros 235] ∧
      later.transmitted ++ later.queue = later.accepted ∧
      later.radio.stats.framesSent.count = 41 ∧ later.radio.stats.framesRejected.count = 1 := by
  intro start events later
  have room : start.env.1.downlink.length ≤ downlinkCapacity := by decide
  have accepted : later.accepted = List.replicate 40 [0x5A] ++ [Bytes.zeros 235] := by
    decide +kernel
  have overflows : later.overflows = 1 := by decide +kernel
  obtain ⟨kept, -, sent, rejected, -⟩ := keeps_accepted (fun _ _ => ()) start room events
  change later.transmitted ++ later.queue = [] ++ later.accepted at kept
  change later.radio.stats.framesSent = Tally.zero.add later.accepted.length at sent
  change later.radio.stats.framesRejected = Tally.zero.add later.overflows at rejected
  clear_value later
  refine ⟨room, accepted, kept, ?_, ?_⟩
  · rw [sent, accepted]
    rfl
  · rw [rejected, overflows]
    rfl

end Traffic

end Cubesat
