import Cubesat.Proofs.Comm.Drain
import Cubesat.Proofs.Comm.Transfers

/-!
What a poll hears, and what it makes of it.

The log of a poll decides what the poll returns. Of every announced frame the
first attempt that is accepted counts, and of this attempt the bytes of its
second read; bytes that an earlier attempt has left in the buffer do not. So
whatever the bus does, nothing is asked for unless a whole frame with the
security code has come over it.
-/

namespace Cubesat

universe u

namespace Comm

/--
The payload of an attempt that is accepted: its four transfers have succeeded,
and the second read starts with the size that the first one has told, or with
the largest size of a frame where that is less.
-/
def captured? : List LinkEvent → Option Bytes
  | [.write _ _ (.ok ()), .pause _, .read _ _ (.ok ()) probe,
      .write _ _ (.ok ()), .pause _, .read _ _ (.ok ()) answer] =>
      let size := Bytes.ofLittleEndian (answer.take 2)
      if size = min (Bytes.ofLittleEndian (probe.take 2)) maxDownlinkSize then
        some ((answer.drop headerSize).take size)
      else
        none
  | _ => none

/-- Attempts at one frame: no more than a number of them, and none after one that is accepted. -/
structure Attempts (count : Nat) (attempts : List (List LinkEvent)) : Prop where
  attempt : ∀ events ∈ attempts, ∃ frame, Attempt events frame
  length_le : attempts.length ≤ count
  refused : ∀ events ∈ attempts.dropLast, captured? events = none
  exhausted : attempts.findSome? captured? = none → attempts.length = count

structure Hearing where
  attempts : List (List LinkEvent)
  removal : BusResult

namespace Hearing

def events (hearing : Hearing) : List LinkEvent :=
  hearing.attempts.flatten ++ [.write receiverAddress [removeFrameCommand] hearing.removal]

def payload? (hearing : Hearing) : Option Bytes :=
  hearing.attempts.findSome? captured?

def request (code : UInt32) (hearing : Hearing) : GroundRequest :=
  hearing.payload?.elim .none (GroundRequest.ofPayload code)

/-- A request is what an accepted payload orders, and nothing where none is accepted. -/
structure Asks (code : UInt32) (hearing : Hearing) (request : GroundRequest) : Prop where
  reboot : request = .reboot ↔ ∃ payload ∈ hearing.payload?, ∃ command,
    command ≠ beaconCommand ∧ GroundRequest.Orders code payload command
  sendBeacon : request = .sendBeacon ↔ ∃ payload ∈ hearing.payload?,
    GroundRequest.Orders code payload beaconCommand

end Hearing

theorem isVerified_capture_iff {claimedSize : Nat} {content : Bytes}
    (fits : content.length ≤ receiveBufferSize) :
    (Frame.capture claimedSize content).isVerified = true ↔
      claimedSize ≤ maxDownlinkSize ∧ content.length = claimedSize := by
  simp [Frame.isVerified, Frame.isSizeValid, Frame.isComplete, Frame.capture,
    List.take_of_length_le fits]

theorem Attempt.captured?_eq {events : List LinkEvent} {frame : Option Frame}
    (attempt : Attempt events frame) :
    captured? events = (frame.filter Frame.isVerified).map Frame.payload := by
  cases attempt with
  | unsized asked => cases asked <;> rfl
  | @sized probe download size answer asked continued =>
      cases asked with
      | answered _ two =>
      cases continued with
      | unsent error => rfl
      | unanswered error buffer => rfl
      | answered received length =>
          have captured : (received.drop headerSize).length =
              min (Bytes.ofLittleEndian size) maxDownlinkSize := by
            rw [List.length_drop, length, downloadSpan, receiveBufferSize, headerSize,
              maxDownlinkSize]
            omega
          have fits : (received.drop headerSize).length ≤ receiveBufferSize := by
            rw [captured, receiveBufferSize, maxDownlinkSize]
            omega
          have accepted :=
            @isVerified_capture_iff (Bytes.ofLittleEndian (received.take 2)) _ fits
          rw [captured] at accepted
          change (if Bytes.ofLittleEndian (received.take 2) =
            min (Bytes.ofLittleEndian (size.take 2)) maxDownlinkSize then
              some ((received.drop headerSize).take (Bytes.ofLittleEndian (received.take 2)))
            else none) = _
          rw [List.take_of_length_le (Nat.le_of_eq two)]
          split
          · next same =>
            rw [Option.map_some, Option.filter_some, if_pos (accepted.mpr ⟨by omega, same.symm⟩),
              Option.map_some, List.take_of_length_le (by omega)]
            exact congrArg some (List.take_of_length_le fits).symm
          · next differ =>
            rw [Option.map_some, Option.filter_some, if_neg]
            · rfl
            · intro verified
              exact differ (accepted.mp verified).2.symm

theorem Attempts.verified {count : Nat} {events : List LinkEvent} {frame : Frame}
    (attempt : Attempt events (some frame)) (captured : captured? events = some frame.payload) :
    Attempts (count + 1) [events] where
  attempt other membership := by
    rw [List.mem_singleton.mp membership]
    exact ⟨_, attempt⟩
  length_le := Nat.succ_le_succ (Nat.zero_le count)
  refused := by simp
  exhausted := by simp [captured]

theorem Attempts.repeated {count : Nat} {failed : List LinkEvent} {frame : Option Frame}
    {attempts : List (List LinkEvent)} (attempt : Attempt failed frame)
    (refused : captured? failed = none) (later : Attempts count attempts) :
    Attempts (count + 1) (failed :: attempts) where
  attempt events membership := by
    rcases List.mem_cons.mp membership with rfl | inLater
    · exact ⟨_, attempt⟩
    · exact later.attempt events inLater
  length_le := Nat.succ_le_succ later.length_le
  refused events membership := by
    cases attempts with
    | nil => simp at membership
    | cons next rest =>
        rw [List.dropLast_cons_cons] at membership
        rcases List.mem_cons.mp membership with rfl | inLater
        · exact refused
        · exact later.refused events inLater
  exhausted nothing := by
    rw [List.findSome?_cons, refused] at nothing
    exact congrArg (· + 1) (later.exhausted nothing)

/-- A download is a list of attempts, and it has brought what the accepted one has captured. -/
theorem Download.exists_attempts {count : Nat} {events : List LinkEvent} {frame : Option Frame}
    (download : Download count events frame) :
    ∃ attempts : List (List LinkEvent), events = attempts.flatten ∧ Attempts count attempts ∧
      attempts.findSome? captured? = frame.map Frame.payload := by
  induction download with
  | exhausted =>
      refine ⟨[], rfl, ⟨by simp, Nat.le_refl 0, by simp, fun _ => rfl⟩, rfl⟩
  | @verified _ events frame attempt verified =>
      have captured : captured? events = some frame.payload := by
        rw [attempt.captured?_eq, Option.filter_some, if_pos verified, Option.map_some]
      refine ⟨[events], by simp, .verified attempt captured, ?_⟩
      rw [List.findSome?_cons, captured, Option.map_some]
  | @repeated _ failed rest frame result attempt unverified later inductionHypothesis =>
      obtain ⟨attempts, rfl, tried, found⟩ := inductionHypothesis
      have refused : captured? failed = none := by
        rw [attempt.captured?_eq]
        cases frame with
        | none => rfl
        | some frame => simp [unverified frame rfl]
      refine ⟨failed :: attempts, rfl, tried.repeated attempt refused, ?_⟩
      rw [List.findSome?_cons, refused, found]

theorem Drain.exists_hearings {frames : List (Option Frame)} {events : List LinkEvent}
    (drain : Drain frames events) :
    ∃ hearings : List Hearing, events = hearings.flatMap Hearing.events ∧
      (∀ hearing ∈ hearings, Attempts downloadAttempts hearing.attempts) ∧
      hearings.map Hearing.payload? = frames.map (Option.map Frame.payload) := by
  induction drain with
  | done => exact ⟨[], rfl, by simp, rfl⟩
  | @frame frame frames download rest removal downloaded later inductionHypothesis =>
      obtain ⟨attempts, rfl, tried, found⟩ := downloaded.exists_attempts
      obtain ⟨hearings, rfl, allTried, same⟩ := inductionHypothesis
      refine ⟨⟨attempts, removal⟩ :: hearings, ?_, ?_, ?_⟩
      · rw [List.flatMap_cons, Hearing.events, List.append_assoc]
        rfl
      · exact List.forall_mem_cons.mpr ⟨tried, allTried⟩
      · rw [List.map_cons, List.map_cons, same, Hearing.payload?, found]

theorem length_captured {events : List LinkEvent} {payload : Bytes}
    (captured : captured? events = some payload) : payload.length ≤ maxDownlinkSize := by
  unfold captured? at captured
  split at captured
  · dsimp only at captured
    split at captured
    · next same =>
      cases captured
      rw [List.length_take, same]
      omega
    · cases captured
  · cases captured

theorem Hearing.request_asks (code : UInt32) (hearing : Hearing) :
    hearing.Asks code (hearing.request code) := by
  unfold request
  cases found : hearing.payload? with
  | none => constructor <;> simp [found]
  | some payload =>
      obtain ⟨events, -, captured⟩ := List.exists_of_findSome?_eq_some found
      have content : GroundRequest.ofPayload code payload = .ofContent code payload :=
        (if_pos (length_captured captured)).symm
      constructor
      · simp [found, content, GroundRequest.ofContent_eq_reboot_iff]
      · simp [found, content, GroundRequest.ofContent_eq_sendBeacon_iff]

theorem Hearing.Asks.ne_none_iff {code : UInt32} {hearing : Hearing} {request : GroundRequest}
    (asks : hearing.Asks code request) :
    request ≠ .none ↔ ∃ payload ∈ hearing.payload?, ∃ command,
      GroundRequest.Orders code payload command := by
  have cases : request ≠ .none ↔ request = .reboot ∨ request = .sendBeacon := by
    cases request <;> simp
  rw [cases, asks.reboot, asks.sendBeacon]
  constructor
  · rintro (⟨payload, found, command, -, orders⟩ | ⟨payload, found, orders⟩)
    · exact ⟨payload, found, command, orders⟩
    · exact ⟨payload, found, beaconCommand, orders⟩
  · rintro ⟨payload, found, command, orders⟩
    by_cases beacon : command = beaconCommand
    · rw [beacon] at orders
      exact .inr ⟨payload, found, orders⟩
    · exact .inl ⟨payload, found, command, beacon, orders⟩

end Comm

variable {Env : Type u}

/-- A read that succeeds brings a byte for every place of the buffer. -/
def Bus.Fills (bus : Bus Env) : Prop :=
  ∀ {address buffer env arrived later},
    bus.fetch address buffer env = ((.ok (), arrived), later) → arrived.length = buffer.length

def LinkEvent.answered : LinkEvent → LinkEvent
  | read address size (.error error) _ => read address size (.error error) []
  | event => event

/-- The same link, with a log in which a read comes with the bytes that the device has sent. -/
def Link.overhearing (link : Link Env) : Link (Logged Env) where
  bus :=
    { link.logging.bus with
      fetch := fun address buffer logged =>
        let done := link.bus.fetch address buffer logged.env
        (done.1,
          { env := done.2
            log := logged.log ++
              [LinkEvent.answered (.read address buffer.length done.1.1 done.1.2)] }) }
  pause := link.logging.pause

/-- On a bus that fills the buffers, the two logs tell the same of every read that succeeds. -/
theorem Link.overhearing_showsAt {link : Link Env} (fills : link.bus.Fills) (address : Address) :
    link.logging.ShowsAt address
      (fun logged => { env := logged.env, log := logged.log.map LinkEvent.answered })
      link.overhearing where
  write data logged := by
    simp [overhearing, logging, LinkEvent.answered]
  read buffer := Bus.read_commutes fun logged => by
    rcases fetched : link.bus.fetch address buffer logged.env with ⟨⟨error | _, arrived⟩, later⟩
    · simp [overhearing, logging, fetched, LinkEvent.answered]
    · simp [overhearing, logging, fetched, LinkEvent.answered,
        Bytes.receive_of_length_eq (fills fetched)]
  pause millis logged := by
    simp [overhearing, logging, LinkEvent.answered]

namespace Radio

open Comm

variable (link : Link Env)

/-- After the frames come the resets of the watchdogs, and nothing else. -/
theorem poll_resets (code : UInt32) (radio : Radio (Logged Env)) :
    let counted := link.logging.frameCount? radio.env
    let drained := processFrames link.logging code (counted.1.getD 0) .none
      { radio with env := counted.2 }
    (radio.poll link.logging code).1 = drained.1 ∧
      ∃ receiver transmitter, (radio.poll link.logging code).2.env.log = drained.2.env.log ++
        [.write receiverAddress [resetWatchdogCommand] receiver,
          .write transmitterAddress [resetWatchdogCommand] transmitter] := by
  intro counted drained
  obtain ⟨receiver, receiverAdded, -⟩ := resetWatchdog_adds link receiverAddress drained.2
  obtain ⟨transmitter, transmitterAdded, -⟩ := resetWatchdog_adds link transmitterAddress
    (drained.2.resetWatchdog link.logging receiverAddress).2
  refine ⟨rfl, receiver, transmitter, ?_⟩
  rw [receiverAdded, List.append_assoc] at transmitterAdded
  exact transmitterAdded

/--
Whatever the bus does, a poll returns the most significant of the requests of
the frames that it has heard, and asks for nothing unless one of them orders it.
Where successful reads fill the buffer, all that is read off the log has been
sent by the device in that same read.
-/
theorem poll_heard (code : UInt32) (radio : Radio Env) :
    ∃ (counting : List LinkEvent) (announced : Option Bytes) (hearings : List Hearing)
      (receiver transmitter : BusResult),
      (radio.logging.poll link.logging code).2.env.log =
        counting ++ hearings.flatMap Hearing.events ++
          [.write receiverAddress [resetWatchdogCommand] receiver,
            .write transmitterAddress [resetWatchdogCommand] transmitter] ∧
      (radio.logging.poll link.logging code).2.env.env = (radio.poll link code).2.env ∧
      Asked frameCountCommand 2 counting announced ∧
      hearings.length = (announced.map Bytes.ofLittleEndian).getD 0 ∧
      (∀ hearing ∈ hearings, Attempts downloadAttempts hearing.attempts ∧
        hearing.Asks code (hearing.request code)) ∧
      (radio.poll link code).1 = (hearings.map (Hearing.request code)).foldl .merge .none ∧
      ((radio.poll link code).1 ≠ .none ↔ ∃ hearing ∈ hearings, ∃ payload ∈ hearing.payload?,
        ∃ command, GroundRequest.Orders code payload command) ∧
      (link.bus.Fills →
        (radio.logging.poll link.overhearing code).2.env.log =
          (radio.logging.poll link.logging code).2.env.log.map LinkEvent.answered) := by
  have logged := showing_poll (link.logging_showsAt receiverAddress)
    (link.logging_showsAt transmitterAddress) code radio.logging
  rw [show radio.logging.showing Logged.env = radio from rfl] at logged
  obtain ⟨counting, countingAdded, announced, asked, count⟩ :=
    link.frameCount?_adds radio.logging.env
  obtain ⟨frames, draining, drainingAdded, drain, length, -, merged⟩ :=
    processFrames_logs link code ((link.logging.frameCount? radio.logging.env).1.getD 0) .none
      { radio.logging with env := (link.logging.frameCount? radio.logging.env).2 }
  obtain ⟨hearings, rfl, tried, brought⟩ := drain.exists_hearings
  obtain ⟨same, receiver, transmitter, log⟩ := poll_resets link code radio.logging
  rw [drainingAdded, countingAdded] at log
  have each : hearings.length = frames.length := by
    simpa using congrArg List.length brought
  have requests : hearings.map (Hearing.request code) = frames.map (.ofFrame? code) := by
    have elims := congrArg (List.map fun payload? : Option Bytes =>
      payload?.elim .none (GroundRequest.ofPayload code)) brought
    rw [List.map_map, List.map_map] at elims
    exact elims
  have request : (radio.poll link code).1 =
      (hearings.map (Hearing.request code)).foldl .merge .none := by
    rw [requests, ← merged, ← same, logged]
  refine ⟨counting, announced, hearings, receiver, transmitter, log, ?_, asked, ?_, ?_, request,
    ?_, ?_⟩
  · rw [logged]
    rfl
  · rw [each, length, count]
  · intro hearing heard
    exact ⟨tried hearing heard, hearing.request_asks code⟩
  · rw [request, ne_eq, GroundRequest.foldl_merge_eq_none_iff]
    simp only [true_and, List.forall_mem_map, not_forall, exists_prop,
      (Hearing.request_asks code _).ne_none_iff]
  · intro fills
    have overheard := showing_poll (Link.overhearing_showsAt fills receiverAddress)
      (Link.overhearing_showsAt fills transmitterAddress) code radio.logging
    exact congrArg (fun done => done.2.env.log) overheard

end Radio

theorem Transceiver.length_of_onRead {address : Address} {size : Nat} {device : Transceiver}
    {arrived : Bytes} (answered : device.onRead address size = (.ok (), arrived)) :
    arrived.length = size := by
  unfold onRead at answered
  split at answered
  · cases answered
  · split at answered
    · cases answered
      exact Bytes.length_fitted _ _
    · split at answered
      · cases answered
        exact Bytes.length_fitted _ _
      · cases answered

theorem Transceiver.link_fills {Delay : Type u} (pause : Nat → Delay → Delay) :
    (link pause).bus.Fills := by
  intro address buffer env arrived later fetched
  exact length_of_onRead (congrArg Prod.fst fetched)

namespace Radio

/-- A frame that is too long for the buffer stands in the queue before an order. -/
theorem poll_heard_transceiver :
    let link := Transceiver.link fun _ _ => ()
    let radio : Radio (Transceiver × Unit) := .start
      ({ Transceiver.idle with
          uplink := [Bytes.zeros 300, Transceiver.commandFrame 1 0x42] }, ())
    link.bus.Fills ∧
      (radio.logging.poll link.overhearing 1).2.env.log =
        (radio.logging.poll link.logging 1).2.env.log.map LinkEvent.answered := by
  intro link radio
  have fills : link.bus.Fills := Transceiver.link_fills _
  obtain ⟨-, -, -, -, -, -, -, -, -, -, -, -, overheard⟩ := poll_heard link 1 radio
  exact ⟨fills, overheard fills⟩

end Radio

end Cubesat
