import Cubesat.Comm.Radio
import Cubesat.Comm.Transceiver
import Cubesat.Proofs.Comm.Orders

/-!
A poll of the simulated transceiver.

The two sides of the link are written independently: the radio asks for frames
with buffers of its own, the transceiver answers from its queue. Here they meet.
What the radio makes of a frame is what `GroundRequest.ofContent` says, and a
poll takes the announced frames off the queue, one after the other.
-/

namespace Cubesat

universe u

namespace Transceiver

/-- The answer that brings a frame: its size, the signal, and the frame itself. -/
def framed (frame : Bytes) : Bytes :=
  word frame.length ++ signalBytes ++ frame

@[simp]
theorem length_framed (frame : Bytes) : (framed frame).length = frame.length + 6 := by
  simp only [framed, List.length_append, length_word, length_signalBytes]
  omega

def drained (count : Nat) (answer : Bytes) (device : Transceiver) : Transceiver :=
  { device with uplink := device.uplink.drop count, receiverAnswer := answer }

@[simp]
theorem uplink_drained (count : Nat) (answer : Bytes) (device : Transceiver) :
    (device.drained count answer).uplink = device.uplink.drop count := rfl

theorem drained_drained (first second : Nat) (early late : Bytes) (device : Transceiver) :
    (device.drained first early).drained second late = device.drained (first + second) late := by
  simp only [drained, List.drop_drop]

def watched (device : Transceiver) : Transceiver :=
  { device with
    receiverResets := device.receiverResets + 1
    transmitterResets := device.transmitterResets + 1 }

/-- The frames that a poll takes off the queue: no more than the largest count announces. -/
def announced (device : Transceiver) : List Bytes :=
  device.uplink.take (min device.uplink.length 65535)

theorem announced_of_le {device : Transceiver} (room : device.uplink.length ≤ 65535) :
    device.announced = device.uplink := by
  rw [announced, Nat.min_eq_left room, List.take_length]

theorem take_two_framed (frame : Bytes) : (framed frame).take 2 = word frame.length := by
  rw [framed, List.append_assoc]
  exact List.take_left' (length_word _)

theorem take_two_take_framed (frame : Bytes) (size : Nat) :
    ((framed frame).take (size + Comm.headerSize)).take 2 = word frame.length := by
  rw [List.take_take, Nat.min_eq_left (by simp only [Comm.headerSize]; omega), take_two_framed]

theorem drop_framed (frame : Bytes) (size : Nat) :
    ((framed frame).take (size + Comm.headerSize)).drop Comm.headerSize = frame.take size := by
  rw [List.drop_take, Nat.add_sub_cancel]
  exact congrArg (List.take size) (List.drop_left' (by simp; rfl))

section Online

variable {device : Transceiver} (online : device.offline = false)

include online

theorem onWrite_frameCount :
    device.onWrite Comm.receiverAddress [Comm.frameCountCommand] =
      (.ok (), device.drained 0 (word device.uplink.length)) := by
  simp [onWrite, online, receiverCommand, drained]

theorem onWrite_getFrame {frame : Bytes} {rest : List Bytes}
    (queue : device.uplink = frame :: rest) :
    device.onWrite Comm.receiverAddress [Comm.getFrameCommand] =
      (.ok (), device.drained 0 (framed frame)) := by
  simp [onWrite, online, receiverCommand, queue, framed, drained, Comm.getFrameCommand,
    Comm.frameCountCommand]

theorem onWrite_removeFrame :
    device.onWrite Comm.receiverAddress [Comm.removeFrameCommand] =
      (.ok (), device.drained 1 device.receiverAnswer) := by
  simp [onWrite, online, receiverCommand, drained, Comm.removeFrameCommand, Comm.getFrameCommand,
    Comm.frameCountCommand]

theorem onWrite_receiverWatchdog :
    device.onWrite Comm.receiverAddress [Comm.resetWatchdogCommand] =
      (.ok (), { device with receiverResets := device.receiverResets + 1 }) := by
  simp [onWrite, online, receiverCommand, Comm.resetWatchdogCommand, Comm.removeFrameCommand,
    Comm.getFrameCommand, Comm.frameCountCommand]

theorem onWrite_transmitterWatchdog :
    device.onWrite Comm.transmitterAddress [Comm.resetWatchdogCommand] =
      (.ok (), { device with transmitterResets := device.transmitterResets + 1 }) := by
  simp [onWrite, online, transmitterCommand, Comm.transmitterAddress, Comm.receiverAddress,
    Comm.resetWatchdogCommand, Comm.sendFrameCommand]

theorem onRead_drained (count : Nat) (answer : Bytes) (size : Nat) :
    (device.drained count answer).onRead Comm.receiverAddress size =
      (.ok (), Bytes.fitted size answer) := by
  simp [onRead, online, drained]

end Online

end Transceiver

open Transceiver (word framed)

namespace Frame

/-- What a complete download makes of a frame: beyond the longest frame the bytes are lost. -/
def ofContent (content : Bytes) : Frame :=
  capture (min content.length 65535) (content.take Comm.maxDownlinkSize)

def downloadSize (content : Bytes) : Nat :=
  min Comm.maxDownlinkSize (min content.length 65535)

theorem capture_download (content : Bytes) :
    capture (min content.length 65535) (content.take (downloadSize content)) =
      ofContent content := by
  have same : content.take (downloadSize content) = content.take Comm.maxDownlinkSize := by
    by_cases short : content.length ≤ Comm.maxDownlinkSize
    · rw [List.take_of_length_le short, List.take_of_length_le]
      simp only [downloadSize, Comm.maxDownlinkSize] at short ⊢
      omega
    · congr 1
      simp only [downloadSize, Comm.maxDownlinkSize] at short ⊢
      omega
  rw [same, ofContent]

theorem isVerified_ofContent (content : Bytes) :
    (ofContent content).isVerified = decide (content.length ≤ Comm.maxDownlinkSize) := by
  have valid : (ofContent content).isSizeValid = true ↔ min content.length 65535 ≤ 235 :=
    decide_eq_true_iff
  have complete : (ofContent content).isComplete = true ↔
      min 241 (min 235 content.length) = min content.length 65535 := by
    simp only [isComplete, ofContent, capture, List.length_take, beq_iff_eq]
    rfl
  rw [Bool.eq_iff_iff, isVerified, Bool.and_eq_true, valid, complete, decide_eq_true_iff,
    Comm.maxDownlinkSize]
  omega

theorem payload_ofContent {content : Bytes} (short : content.length ≤ Comm.maxDownlinkSize) :
    (ofContent content).payload = content := by
  have fits : content.length ≤ Comm.receiveBufferSize := Nat.le_trans short (by decide)
  simp only [ofContent, capture, List.take_of_length_le short, List.take_of_length_le fits]

end Frame

open Cubesat.Frame (downloadSize)

namespace Link

variable {Env : Type u}

/--
An online transceiver is at the other end of a link: it does what it is told,
and whatever else a successful transfer does is a step along a relation.
-/
structure Serves (link : Link Env) (device : Env → Transceiver) (settles : Env → Env → Prop) :
    Prop where
  write : ∀ {address data env after}, (device env).onWrite address data = (.ok (), after) →
    ∃ later, link.bus.write address data env = (.ok (), later) ∧ device later = after ∧
      settles env later
  fetch : ∀ {address buffer env arrived},
    (device env).onRead address buffer.length = (.ok (), arrived) →
      ∃ later, link.bus.fetch address buffer env = ((.ok (), arrived), later) ∧
        device later = device env ∧ settles env later
  pause : ∀ millis env, device (link.pause millis env) = device env
  settles_pause : ∀ {before env} millis, settles before env →
    settles before (link.pause millis env)
  trans : ∀ {first second third}, settles first second → settles second third →
    settles first third

variable {link : Link Env} {device : Env → Transceiver} {settles : Env → Env → Prop}

structure Yields {Answer : Type} (device : Env → Transceiver) (settles : Env → Env → Prop)
    (before : Env) (done : Answer × Env) (answer : Answer) (after : Transceiver) : Prop where
  answer : done.1 = answer
  device : device done.2 = after
  settled : settles before done.2

variable (serves : link.Serves device settles)

include serves

theorem Serves.send {address : Address} {data : Bytes} {env : Env} {after : Transceiver}
    (taken : (device env).onWrite address data = (.ok (), after)) :
    Yields device settles env (link.send address data env) true after := by
  obtain ⟨later, written, shown, settled⟩ := serves.write taken
  unfold Link.send
  rw [written]
  exact ⟨rfl, shown, settled⟩

theorem Serves.request {command : UInt8} {content buffer : Bytes} {address : Address} {env : Env}
    {after : Transceiver} {arrived : Bytes}
    (taken : (device env).onWrite address (command :: content) = (.ok (), after))
    (answered : after.onRead address buffer.length = (.ok (), arrived))
    (whole : arrived.length = buffer.length) :
    Yields device settles env (link.request address (command :: content) buffer env)
      (true, arrived) after := by
  obtain ⟨later, written, rfl, settled⟩ := serves.write taken
  have waited := serves.settles_pause Comm.settleMillis settled
  rw [← serves.pause Comm.settleMillis later] at answered
  obtain ⟨last, fetched, shown, resettled⟩ := serves.fetch answered
  unfold Link.request
  rw [if_neg (by simp), written]
  simp only [Bus.read, fetched, Bytes.receive_of_length_eq whole]
  exact ⟨rfl, shown.trans (serves.pause _ _), serves.trans waited resettled⟩

theorem Serves.frameCount? {env : Env} (online : (device env).offline = false) :
    Yields device settles env (link.frameCount? env) (some (min (device env).uplink.length 65535))
      ((device env).drained 0 (word (device env).uplink.length)) := by
  have asked := serves.request (Transceiver.onWrite_frameCount online)
    (Transceiver.onRead_drained online 0 _ (Bytes.zeros 2).length) (by simp)
  have whole : Bytes.fitted (Bytes.zeros 2).length (word (device env).uplink.length) =
      word (device env).uplink.length := by
    rw [Bytes.fitted_of_le (by simp), List.take_of_length_le (by simp)]
  rw [whole] at asked
  refine ⟨?_, asked.device, asked.settled⟩
  simp only [Link.frameCount?, asked.answer, if_true, Transceiver.ofLittleEndian_word]

section Head

variable {env : Env} {frame : Bytes} {rest : List Bytes} (online : (device env).offline = false)
  (queue : (device env).uplink = frame :: rest)

include online queue

theorem Serves.getFrame (buffer : Bytes) (filled : buffer.length ≤ frame.length + 6) :
    Yields device settles env (link.request Comm.receiverAddress [Comm.getFrameCommand] buffer env)
      (true, (framed frame).take buffer.length) ((device env).drained 0 (framed frame)) := by
  have asked := serves.request (Transceiver.onWrite_getFrame online queue)
    (Transceiver.onRead_drained online 0 _ buffer.length) (by simp)
  rw [Bytes.fitted_of_le (by simpa using filled)] at asked
  exact asked

/-- An attempt brings the frame, as much of it as a download keeps. -/
theorem Serves.download? {buffer : Bytes} (size : buffer.length = Comm.receiveBufferSize) :
    ∃ left, Yields device settles env (link.download? buffer env)
      (some (Frame.ofContent frame), left) ((device env).drained 0 (framed frame)) := by
  have short : (buffer.take 2).length = 2 := by
    rw [List.length_take, size]
    rfl
  have probed := serves.getFrame online queue (buffer.take 2) (by omega)
  rw [short, Transceiver.take_two_framed] at probed
  unfold Link.download?
  rw [if_neg (by rw [size]; decide)]
  generalize link.request Comm.receiverAddress [Comm.getFrameCommand] (buffer.take 2) env = probe
    at probed ⊢
  rcases probe with ⟨⟨answered, header⟩, middle⟩
  obtain ⟨rfl, rfl⟩ := Prod.mk.inj probed.answer
  have shown : device middle = (device env).drained 0 (framed frame) := probed.device
  have room : (word frame.length ++ buffer.drop 2).length = Comm.receiveBufferSize := by
    rw [List.length_append, Transceiver.length_word, List.length_drop, size]
    rfl
  have announced : (word frame.length ++ buffer.drop 2).take 2 = word frame.length :=
    List.take_left' (Transceiver.length_word _)
  have span : min Comm.receiveBufferSize (min frame.length 65535 + Comm.headerSize) =
      downloadSize frame + Comm.headerSize := by
    simp only [downloadSize, Comm.receiveBufferSize, Comm.maxDownlinkSize, Comm.headerSize]
    omega
  simp only [if_true, room, announced, Transceiver.ofLittleEndian_word, span]
  generalize word frame.length ++ buffer.drop 2 = left at room ⊢
  have wanted : (left.take (downloadSize frame + Comm.headerSize)).length =
      downloadSize frame + Comm.headerSize := by
    rw [List.length_take, room, Nat.min_eq_left]
    simp only [downloadSize, Comm.receiveBufferSize, Comm.maxDownlinkSize, Comm.headerSize]
    omega
  have stillOnline : (device middle).offline = false := by rw [shown]; exact online
  have stillQueued : (device middle).uplink = frame :: rest := by rw [shown]; exact queue
  have held : downloadSize frame ≤ frame.length := by unfold downloadSize; omega
  have fetched := serves.getFrame stillOnline stillQueued
    (left.take (downloadSize frame + Comm.headerSize))
    (by rw [wanted]; exact Nat.add_le_add_right held _)
  rw [wanted, shown] at fetched
  simp only [fetched.answer, if_true, Transceiver.drop_framed, Transceiver.take_two_take_framed,
    Transceiver.ofLittleEndian_word, Frame.capture_download]
  refine ⟨_, rfl, fetched.device, serves.trans probed.settled fetched.settled⟩

theorem Serves.downloadVerified?_succ (attempts : Nat) {buffer : Bytes}
    (size : buffer.length = Comm.receiveBufferSize) :
    ∃ left later, left.length = Comm.receiveBufferSize ∧
      device later = (device env).drained 0 (framed frame) ∧ settles env later ∧
        link.downloadVerified? (attempts + 1) buffer env =
          if (Frame.ofContent frame).isVerified then (some (Frame.ofContent frame), later)
          else link.downloadVerified? attempts left later := by
  obtain ⟨left, downloaded⟩ := serves.download? online queue size
  have same := link.length_download? buffer env
  rcases attempt : link.download? buffer env with ⟨⟨answer, left'⟩, later⟩
  rw [attempt] at downloaded same
  obtain ⟨rfl, rfl⟩ := Prod.mk.inj downloaded.answer
  refine ⟨left', later, same.trans size, downloaded.device, downloaded.settled, ?_⟩
  rw [Link.downloadVerified?, attempt]

theorem Serves.downloadVerified? (attempts : Nat) {buffer : Bytes}
    (size : buffer.length = Comm.receiveBufferSize) :
    Yields device settles env (link.downloadVerified? (attempts + 1) buffer env)
      (if (Frame.ofContent frame).isVerified then some (Frame.ofContent frame) else none)
      ((device env).drained 0 (framed frame)) := by
  induction attempts generalizing buffer env with
  | zero =>
      obtain ⟨left, later, -, shown, settled, attempt⟩ :=
        serves.downloadVerified?_succ online queue 0 size
      rw [attempt]
      split
      · exact ⟨rfl, shown, settled⟩
      · exact ⟨rfl, shown, settled⟩
  | succ attempts inductionHypothesis =>
      obtain ⟨left, later, same, shown, settled, attempt⟩ :=
        serves.downloadVerified?_succ online queue (attempts + 1) size
      have retried := inductionHypothesis (by rw [shown]; exact online)
        (by rw [shown]; exact queue) same
      rw [shown, Transceiver.drained_drained] at retried
      rw [attempt]
      split
      · exact ⟨rfl, shown, settled⟩
      · rename_i refused
        rw [if_neg refused] at retried
        exact ⟨retried.answer, retried.device, serves.trans settled retried.settled⟩

end Head

end Link

namespace RadioStats

def drained (contents : List Bytes) (stats : RadioStats) : RadioStats :=
  { stats with
    framesReceived :=
      stats.framesReceived.add
        (contents.countP fun content => decide (content.length ≤ Comm.maxDownlinkSize))
    framesDropped :=
      stats.framesDropped.add
        (contents.countP fun content => decide (Comm.maxDownlinkSize < content.length)) }

def watched (stats : RadioStats) : RadioStats :=
  { stats with watchdogResets := stats.watchdogResets.bump }

@[simp]
theorem drained_nil (stats : RadioStats) : stats.drained [] = stats := by
  simp [drained]

theorem drained_drained (first second : List Bytes) (stats : RadioStats) :
    (stats.drained first).drained second = stats.drained (first ++ second) := by
  simp only [drained, Tally.add_add, List.countP_append]

end RadioStats

namespace Radio

variable {Env : Type u} {link : Link Env} {device : Env → Transceiver}
  {settles : Env → Env → Prop} (serves : link.Serves device settles)

include serves

theorem processFrame_drains {radio : Radio Env} (code : UInt32) {frame : Bytes}
    {rest : List Bytes} (online : (device radio.env).offline = false)
    (queue : (device radio.env).uplink = frame :: rest) :
    let done := radio.processFrame link code
    done.1 = .ofContent code frame ∧ done.2.stats = radio.stats.drained [frame] ∧
      device done.2.env = (device radio.env).drained 1 (framed frame) ∧
        settles radio.env done.2.env := by
  have downloaded := serves.downloadVerified? online queue 2
    (Bytes.length_zeros Comm.receiveBufferSize)
  rw [Frame.isVerified_ofContent] at downloaded
  unfold processFrame Link.removeFrame Comm.downloadAttempts
  generalize link.downloadVerified? 3 (Bytes.zeros Comm.receiveBufferSize) radio.env = download
    at downloaded ⊢
  rcases download with ⟨found, middle⟩
  have shown : device middle = (device radio.env).drained 0 (framed frame) := downloaded.device
  have removed := serves.send (Transceiver.onWrite_removeFrame (by rw [shown]; exact online))
  rw [shown, Transceiver.drained_drained] at removed
  have settled := serves.trans downloaded.settled removed.settled
  by_cases short : frame.length ≤ Comm.maxDownlinkSize
  · have answer : found = some (Frame.ofContent frame) := by
      simpa only [short, decide_true, if_true] using downloaded.answer
    subst answer
    refine ⟨?_, ?_, removed.device, settled⟩
    · rw [GroundRequest.ofContent, if_pos short]
      exact congrArg (GroundRequest.ofPayload code) (Frame.payload_ofContent short)
    · simp [RadioStats.drained, short, Nat.not_lt.mpr short, Tally.add_one]
  · have answer : found = none := by
      simpa only [short, decide_false, Bool.false_eq_true, if_false] using downloaded.answer
    subst answer
    refine ⟨?_, ?_, removed.device, settled⟩
    · rw [GroundRequest.ofContent, if_neg short]
    · simp [RadioStats.drained, short, Nat.not_le.mp short, Tally.add_one]

theorem processFrames_drains (code : UInt32) (count : Nat) (request : GroundRequest)
    (radio : Radio Env) {start : Env} (online : (device radio.env).offline = false)
    (queued : count ≤ (device radio.env).uplink.length) (settled : settles start radio.env) :
    let done := processFrames link code count request radio
    let contents := (device radio.env).uplink.take count
    done.1 = (contents.map (.ofContent code)).foldl .merge request ∧
      done.2.stats = radio.stats.drained contents ∧
        (∃ answer, device done.2.env = (device radio.env).drained count answer) ∧
          settles start done.2.env := by
  induction count generalizing request radio with
  | zero => exact ⟨rfl, by simp [processFrames], ⟨_, rfl⟩, settled⟩
  | succ count inductionHypothesis =>
      cases queue : (device radio.env).uplink with
      | nil =>
          rw [queue] at queued
          contradiction
      | cons frame rest =>
          rw [queue] at queued
          obtain ⟨asked, counted, shown, settledNext⟩ :=
            processFrame_drains serves code online queue
          have onlineNext : (device (radio.processFrame link code).2.env).offline = false := by
            rw [shown]
            exact online
          have queueNext : (device (radio.processFrame link code).2.env).uplink = rest := by
            rw [shown, Transceiver.uplink_drained, queue]
            rfl
          obtain ⟨merged, countedAll, ⟨answer, shownAll⟩, settledAll⟩ :=
            inductionHypothesis (request.merge (radio.processFrame link code).1)
              (radio.processFrame link code).2 onlineNext
              (by rw [queueNext]; simpa using queued) (serves.trans settled settledNext)
          rw [queueNext] at merged countedAll
          rw [shown, Transceiver.drained_drained, Nat.add_comm] at shownAll
          refine ⟨?_, ?_, ⟨answer, shownAll⟩, settledAll⟩
          · rw [List.take_succ_cons, List.map_cons, List.foldl_cons, ← asked]
            exact merged
          · rw [List.take_succ_cons, ← List.singleton_append, ← RadioStats.drained_drained,
              ← counted]
            exact countedAll

theorem resetWatchdog_serves {address : Address} {radio : Radio Env} {after : Transceiver}
    (taken : (device radio.env).onWrite address [Comm.resetWatchdogCommand] = (.ok (), after)) :
    (radio.resetWatchdog link address).2.stats = radio.stats.watched ∧
      device (radio.resetWatchdog link address).2.env = after ∧
        settles radio.env (radio.resetWatchdog link address).2.env := by
  have sent := serves.send taken
  unfold resetWatchdog
  dsimp only
  rw [sent.answer]
  exact ⟨rfl, sent.device, sent.settled⟩

theorem poll_serves (code : UInt32) (radio : Radio Env)
    (online : (device radio.env).offline = false) :
    let contents := (device radio.env).announced
    (radio.poll link code).1 = .ofQueue code contents ∧
      (radio.poll link code).2.stats = (radio.stats.drained contents).watched.watched ∧
        (∃ answer, device (radio.poll link code).2.env =
          ((device radio.env).drained contents.length answer).watched) ∧
            settles radio.env (radio.poll link code).2.env := by
  have counted := serves.frameCount? online
  unfold poll
  generalize link.frameCount? radio.env = count at counted ⊢
  rcases count with ⟨number, middle⟩
  obtain rfl : number = some (min (device radio.env).uplink.length 65535) := counted.answer
  have shown : device middle =
      (device radio.env).drained 0 (word (device radio.env).uplink.length) := counted.device
  obtain ⟨merged, tallied, ⟨answer, emptied⟩, settled⟩ :=
    processFrames_drains serves code (min (device radio.env).uplink.length 65535) .none
      { radio with env := middle } (by rw [shown]; exact online)
      (by rw [shown]; exact Nat.min_le_left _ _) counted.settled
  rw [shown, Transceiver.uplink_drained, List.drop_zero] at merged tallied
  rw [shown, Transceiver.drained_drained, Nat.zero_add] at emptied
  simp only [Option.getD_some]
  generalize processFrames link code (min (device radio.env).uplink.length 65535) .none
    { radio with env := middle } = drained at merged tallied emptied settled ⊢
  obtain ⟨received, receiverShown, receiverSettled⟩ := resetWatchdog_serves serves
    (Transceiver.onWrite_receiverWatchdog (by rw [emptied]; exact online))
  generalize drained.2.resetWatchdog link Comm.receiverAddress = receiver
    at received receiverShown receiverSettled ⊢
  obtain ⟨transmitted, transmitterShown, transmitterSettled⟩ := resetWatchdog_serves serves
    (Transceiver.onWrite_transmitterWatchdog (by rw [receiverShown, emptied]; exact online))
  have size : (device radio.env).announced.length = min (device radio.env).uplink.length 65535 := by
    rw [Transceiver.announced, List.length_take]
    omega
  refine ⟨merged, ?_, ⟨answer, ?_⟩, ?_⟩
  · rw [transmitted, received, tallied]
    rfl
  · rw [transmitterShown, receiverShown, emptied, size]
    rfl
  · exact serves.trans (serves.trans settled receiverSettled) transmitterSettled

end Radio

section Direct

variable {Delay : Type u}

def Transceiver.link (pause : Nat → Delay → Delay) : Link (Transceiver × Delay) where
  bus := Transceiver.bus.through .fst
  pause millis env := (env.1, pause millis env.2)

theorem Transceiver.link_serves (pause : Nat → Delay → Delay) :
    (link pause).Serves Prod.fst fun _ _ => True where
  write {address data env after} taken := by
    refine ⟨(after, env.2), ?_, rfl, trivial⟩
    simp only [link, Bus.through, Lens.lift, Lens.fst, bus, taken]
  fetch {address buffer env arrived} answered := by
    refine ⟨env, ?_, rfl, trivial⟩
    simp only [link, Bus.through, Lens.lift, Lens.fst, bus, answered]
  pause _ _ := rfl
  settles_pause _ _ := trivial
  trans _ _ := trivial

namespace Radio

def RebootOrdered (code : UInt32) (contents : List Bytes) : Prop :=
  ∃ content ∈ contents, ∃ command, command ≠ Comm.beaconCommand ∧
    GroundRequest.Orders code content command

def BeaconOrdered (code : UInt32) (contents : List Bytes) : Prop :=
  ∃ content ∈ contents, GroundRequest.Orders code content Comm.beaconCommand

/-- What a poll has made of the frames that were announced to it, and what it has left as it was. -/
structure Drained (code : UInt32) (before : Radio (Transceiver × Delay)) (request : GroundRequest)
    (after : Radio (Transceiver × Delay)) : Prop where
  reboot : request = .reboot ↔ RebootOrdered code before.env.1.announced
  beacon : request = .sendBeacon ↔
    ¬ RebootOrdered code before.env.1.announced ∧ BeaconOrdered code before.env.1.announced
  uplink : after.env.1.uplink = before.env.1.uplink.drop (min before.env.1.uplink.length 65535)
  received : after.stats.framesReceived = before.stats.framesReceived.add
    (before.env.1.announced.countP fun content => content.length ≤ Comm.maxDownlinkSize)
  dropped : after.stats.framesDropped = before.stats.framesDropped.add
    (before.env.1.announced.countP fun content => Comm.maxDownlinkSize < content.length)
  sent : after.stats.framesSent = before.stats.framesSent
  rejected : after.stats.framesRejected = before.stats.framesRejected
  receiverResets : after.env.1.receiverResets = before.env.1.receiverResets + 1
  transmitterResets : after.env.1.transmitterResets = before.env.1.transmitterResets + 1
  watchdogResets : after.stats.watchdogResets = before.stats.watchdogResets.add 2
  downlink : after.env.1.downlink = before.env.1.downlink
  transmitterAnswer : after.env.1.transmitterAnswer = before.env.1.transmitterAnswer
  bitRate : after.env.1.bitRate = before.env.1.bitRate
  online : after.env.1.offline = false

/-- A poll of an online transceiver drains its queue; the order of the frames does not matter. -/
theorem poll_drains (pause : Nat → Delay → Delay) (code : UInt32)
    {radio : Radio (Transceiver × Delay)} (online : radio.env.1.offline = false) :
    Drained code radio (radio.poll (Transceiver.link pause) code).1
        (radio.poll (Transceiver.link pause) code).2 ∧
      ∀ other : Radio (Transceiver × Delay), other.env.1.offline = false →
        other.env.1.announced.Perm radio.env.1.announced →
          (other.poll (Transceiver.link pause) code).1 =
            (radio.poll (Transceiver.link pause) code).1 := by
  have serves := Transceiver.link_serves pause
  obtain ⟨request, stats, ⟨answer, shown⟩, -⟩ := poll_serves serves code radio online
  have size : radio.env.1.announced.length = min radio.env.1.uplink.length 65535 := by
    rw [Transceiver.announced, List.length_take]
    omega
  constructor
  · refine
      { reboot := ?_, beacon := ?_, uplink := ?_
        received := by rw [stats]; rfl
        dropped := by rw [stats]; rfl
        sent := by rw [stats]; rfl
        rejected := by rw [stats]; rfl
        receiverResets := by rw [shown]; rfl
        transmitterResets := by rw [shown]; rfl
        watchdogResets := ?_
        downlink := by rw [shown]; rfl
        transmitterAnswer := by rw [shown]; rfl
        bitRate := by rw [shown]; rfl
        online := by rw [shown]; exact online }
    · rw [request]
      exact GroundRequest.ofQueue_eq_reboot_iff
    · rw [request, GroundRequest.ofQueue_eq_sendBeacon_iff, ne_eq,
        GroundRequest.ofQueue_eq_reboot_iff]
      rfl
    · rw [shown, size]
      rfl
    · rw [stats]
      simp only [RadioStats.watched, RadioStats.drained, ← Tally.add_one, Tally.add_add]
  · intro other otherOnline perm
    rw [request, (poll_serves serves code other otherOnline).1]
    exact GroundRequest.ofQueue_perm perm

theorem poll_drains_reboot :
    let device := { Transceiver.idle with
      uplink := [Transceiver.commandFrame 1 Comm.beaconCommand, [0x00], Bytes.zeros 300,
        Transceiver.commandFrame 1 0x42] }
    device.offline = false ∧
      (Radio.poll (Transceiver.link fun _ _ => ()) 1 (.start (device, ()))).1 = .reboot := by
  refine ⟨rfl, ?_⟩
  apply (poll_drains (fun _ _ => ()) 1 rfl).1.reboot.mpr
  exact ⟨Transceiver.commandFrame 1 0x42, by decide, 0x42, by decide, by decide, [], rfl⟩

end Radio

end Direct

end Cubesat
