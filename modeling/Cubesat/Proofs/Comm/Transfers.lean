import Cubesat.Proofs.Comm.Mirror

/-!
The transfers of a poll, on any bus whatsoever.

A link can be made to keep a log of what happens on it. Whatever the bus
answers and however it fails, the log of a poll is a word of one small grammar;
how many transfers there are, how much they read and how long the link pauses
is then read off the grammar.
-/

namespace Cubesat

universe u

/-- One thing that happens on a link; a read comes with the buffer as it leaves it. -/
inductive LinkEvent where
  | write (address : Address) (data : Bytes) (result : BusResult)
  | read (address : Address) (size : Nat) (result : BusResult) (buffer : Bytes)
  | exchange (address : Address) (output : Bytes) (size : Nat) (result : BusResult)
  | pause (millis : Nat)

namespace LinkEvent

def isTransfer : LinkEvent → Bool
  | write _ _ _ => true
  | read _ _ _ _ => true
  | exchange _ _ _ _ => true
  | pause _ => false

def isPause : LinkEvent → Bool
  | pause _ => true
  | _ => false

def isReceiverRequest : LinkEvent → Bool
  | write address data result =>
      address = Comm.receiverAddress &&
        (data = [Comm.frameCountCommand] || data = [Comm.getFrameCommand]) && Link.succeeded result
  | _ => false

def isRemoval : LinkEvent → Bool
  | write address data _ => address = Comm.receiverAddress && data = [Comm.removeFrameCommand]
  | _ => false

def requestedSize : LinkEvent → Nat
  | read _ size _ _ => size
  | exchange _ _ size _ => size
  | _ => 0

end LinkEvent

structure Logged (Env : Type u) where
  env : Env
  log : List LinkEvent

variable {Env : Type u}

def Link.logging (link : Link Env) : Link (Logged Env) where
  bus :=
    { write := fun address data logged =>
        let done := link.bus.write address data logged.env
        (done.1, { env := done.2, log := logged.log ++ [.write address data done.1] })
      fetch := fun address buffer logged =>
        let done := link.bus.fetch address buffer logged.env
        let left := Bytes.receive buffer done.1.2
        (done.1,
          { env := done.2, log := logged.log ++ [.read address buffer.length done.1.1 left] })
      exchange := fun address output buffer logged =>
        let done := link.bus.exchange address output buffer logged.env
        (done.1,
          { env := done.2
            log := logged.log ++ [.exchange address output buffer.length done.1.1] }) }
  pause millis logged :=
    { env := link.pause millis logged.env, log := logged.log ++ [.pause millis] }

theorem Link.logging_showsAt (link : Link Env) (address : Address) :
    link.logging.ShowsAt address Logged.env link where
  write _ _ := rfl
  read _ _ := rfl
  pause _ _ := rfl

namespace Comm

def downloadSpan (size : Bytes) : Nat :=
  min receiveBufferSize (Bytes.ofLittleEndian size + headerSize)

/--
A command to the receiver and, if it has gone out, a pause and a read of the
given size; with the answer, if there is one.
-/
inductive Asked (command : UInt8) (size : Nat) : List LinkEvent → Option Bytes → Prop
  | unsent (error : BusError) :
      Asked command size [.write receiverAddress [command] (.error error)] none
  | unanswered (error : BusError) (buffer : Bytes) :
      Asked command size
        [.write receiverAddress [command] (.ok ()), .pause settleMillis,
          .read receiverAddress size (.error error) buffer] none
  | answered (buffer : Bytes) (length : buffer.length = size) :
      Asked command size
        [.write receiverAddress [command] (.ok ()), .pause settleMillis,
          .read receiverAddress size (.ok ()) buffer] (some buffer)

inductive Attempt : List LinkEvent → Option Frame → Prop
  | unsized {probe : List LinkEvent} (asked : Asked getFrameCommand 2 probe none) :
      Attempt probe none
  | sized {probe download : List LinkEvent} {size : Bytes} {answer : Option Bytes}
      (asked : Asked getFrameCommand 2 probe (some size))
      (continued : Asked getFrameCommand (downloadSpan size) download answer) :
      Attempt (probe ++ download) (answer.map fun received =>
        Frame.capture (Bytes.ofLittleEndian (received.take 2)) (received.drop headerSize))

inductive Download : Nat → List LinkEvent → Option Frame → Prop
  | exhausted : Download 0 [] none
  | verified {attempts : Nat} {events : List LinkEvent} {frame : Frame}
      (attempt : Attempt events (some frame)) (verified : frame.isVerified = true) :
      Download (attempts + 1) events (some frame)
  | repeated {attempts : Nat} {failed rest : List LinkEvent} {frame result : Option Frame}
      (attempt : Attempt failed frame) (unverified : ∀ other ∈ frame, other.isVerified = false)
      (later : Download attempts rest result) :
      Download (attempts + 1) (failed ++ rest) result

/--
One frame after the other: the attempts at it and, whatever came of them, one
removal. Listed are the frames that were brought, with a gap for each that was not.
-/
inductive Drain : List (Option Frame) → List LinkEvent → Prop
  | done : Drain [] []
  | frame {frame : Option Frame} {frames : List (Option Frame)} {download rest : List LinkEvent}
      {removal : BusResult} (downloaded : Download downloadAttempts download frame)
      (later : Drain frames rest) :
      Drain (frame :: frames)
        (download ++ .write receiverAddress [removeFrameCommand] removal :: rest)

/--
A word with at most so many transfers and exactly so many removals, in which no
transfer asks for more than the receive buffer holds and the link pauses once,
for the time that a device needs, after every request that has gone out.
-/
structure Metered (transfers removals : Nat) (events : List LinkEvent) : Prop where
  transfers_le : events.countP LinkEvent.isTransfer ≤ transfers
  removals_eq : events.countP LinkEvent.isRemoval = removals
  size_le : ∀ event ∈ events, event.requestedSize ≤ receiveBufferSize
  pauses_eq : events.countP LinkEvent.isPause = events.countP LinkEvent.isReceiverRequest
  pause_eq : ∀ millis, .pause millis ∈ events → millis = settleMillis

theorem Metered.nil : Metered 0 0 [] where
  transfers_le := Nat.le_refl 0
  removals_eq := rfl
  size_le := by simp
  pauses_eq := rfl
  pause_eq := by simp

theorem Metered.append {transfers removals transfers' removals' : Nat}
    {first second : List LinkEvent} (early : Metered transfers removals first)
    (late : Metered transfers' removals' second) :
    Metered (transfers + transfers') (removals + removals') (first ++ second) where
  transfers_le := by
    rw [List.countP_append]
    exact Nat.add_le_add early.transfers_le late.transfers_le
  removals_eq := by
    rw [List.countP_append, early.removals_eq, late.removals_eq]
  size_le event membership := by
    rcases List.mem_append.mp membership with inFirst | inSecond
    · exact early.size_le event inFirst
    · exact late.size_le event inSecond
  pauses_eq := by
    rw [List.countP_append, List.countP_append, early.pauses_eq, late.pauses_eq]
  pause_eq millis membership := by
    rcases List.mem_append.mp membership with inFirst | inSecond
    · exact early.pause_eq millis inFirst
    · exact late.pause_eq millis inSecond

theorem Metered.mono {transfers transfers' removals : Nat} {events : List LinkEvent}
    (metered : Metered transfers removals events) (few : transfers ≤ transfers') :
    Metered transfers' removals events :=
  { metered with transfers_le := Nat.le_trans metered.transfers_le few }

theorem Metered.cast {transfers removals removals' : Nat} {events : List LinkEvent}
    (metered : Metered transfers removals events) (same : removals = removals') :
    Metered transfers removals' events :=
  same ▸ metered

theorem Metered.command (address : Address) {command : UInt8} (result : BusResult)
    (silent : command ≠ frameCountCommand ∧ command ≠ getFrameCommand) :
    Metered 1 (if address = receiverAddress ∧ command = removeFrameCommand then 1 else 0)
      [.write address [command] result] where
  transfers_le := Nat.le_refl 1
  removals_eq := by simp [LinkEvent.isRemoval]
  size_le := by simp [LinkEvent.requestedSize]
  pauses_eq := by simp [LinkEvent.isPause, LinkEvent.isReceiverRequest, silent]
  pause_eq := by simp

theorem Asked.metered {command : UInt8} {size : Nat} {events : List LinkEvent}
    {answer : Option Bytes} (known : command = frameCountCommand ∨ command = getFrameCommand)
    (fits : size ≤ receiveBufferSize) (asked : Asked command size events answer) :
    Metered 2 0 events := by
  have other : command ≠ removeFrameCommand := by
    rcases known with rfl | rfl <;> decide
  cases asked with
  | unsent error =>
      constructor
      · exact Nat.le_succ 1
      · simp [LinkEvent.isRemoval, other]
      · simp [LinkEvent.requestedSize]
      · simp [LinkEvent.isPause, LinkEvent.isReceiverRequest, Link.succeeded]
      · simp
  | unanswered error buffer =>
      constructor
      · exact Nat.le_refl 2
      · simp [LinkEvent.isRemoval, other]
      · simp [LinkEvent.requestedSize, fits]
      · simp [List.countP_cons, LinkEvent.isPause, LinkEvent.isReceiverRequest, Link.succeeded,
          known]
      · simp
  | answered buffer length =>
      constructor
      · exact Nat.le_refl 2
      · simp [LinkEvent.isRemoval, other]
      · simp [LinkEvent.requestedSize, fits]
      · simp [List.countP_cons, LinkEvent.isPause, LinkEvent.isReceiverRequest, Link.succeeded,
          known]
      · simp

theorem Attempt.metered {events : List LinkEvent} {frame : Option Frame}
    (attempt : Attempt events frame) : Metered 4 0 events := by
  have pair : 2 ≤ receiveBufferSize := by decide
  cases attempt with
  | unsized asked => exact (asked.metered (.inr rfl) pair).mono (by decide)
  | sized asked continued =>
      have span := continued.metered (.inr rfl) (Nat.min_le_left _ _)
      exact (asked.metered (.inr rfl) pair).append span

theorem Download.metered {attempts : Nat} {events : List LinkEvent} {frame : Option Frame}
    (download : Download attempts events frame) : Metered (4 * attempts) 0 events := by
  induction download with
  | exhausted => exact .nil
  | verified attempt => exact attempt.metered.mono (by omega)
  | repeated attempt _ _ inductionHypothesis =>
      exact (attempt.metered.append inductionHypothesis).mono (by omega)

theorem Metered.removal (result : BusResult) :
    Metered 1 1 [.write receiverAddress [removeFrameCommand] result] :=
  .command receiverAddress result
    (by decide : removeFrameCommand ≠ frameCountCommand ∧ removeFrameCommand ≠ getFrameCommand)

theorem Drain.metered {frames : List (Option Frame)} {events : List LinkEvent}
    (drain : Drain frames events) : Metered (13 * frames.length) frames.length events := by
  induction drain with
  | done => exact .nil
  | @frame frame frames download rest removal downloaded _ inductionHypothesis =>
      have one := downloaded.metered.append ((Metered.removal removal).append inductionHypothesis)
      unfold downloadAttempts at one
      rw [List.length_cons]
      exact (one.cast (by omega)).mono (by omega)

end Comm

def GroundRequest.ofFrame? (code : UInt32) (frame : Option Frame) : GroundRequest :=
  (frame.map Frame.payload).elim .none (ofPayload code)

/-- What a call on a logging link adds to the log is a word that fits its answer. -/
def Logged.Adds {Answer : Type} (logged : Logged Env) (word : List LinkEvent → Answer → Prop)
    (done : Answer × Logged Env) : Prop :=
  ∃ events, done.2.log = logged.log ++ events ∧ word events done.1

namespace Link

open Comm

variable (link : Link Env)

theorem request_adds (command : UInt8) (buffer : Bytes) (logged : Logged Env) :
    logged.Adds
      (fun events answer =>
        Asked command buffer.length events (if answer.1 then some answer.2 else none))
      (link.logging.request receiverAddress [command] buffer logged) := by
  rcases written : link.bus.write receiverAddress [command] logged.env with ⟨error | _, middle⟩
  · refine ⟨[.write receiverAddress [command] (.error error)], ?_, ?_⟩
    · simp [Link.request, logging, written]
    · simpa [Link.request, logging, written] using Asked.unsent error
  · rcases fetched : link.bus.fetch receiverAddress buffer (link.pause settleMillis middle) with
      ⟨⟨error | _, arrived⟩, later⟩
    · refine ⟨[.write receiverAddress [command] (.ok ()), .pause settleMillis,
        .read receiverAddress buffer.length (.error error) (Bytes.receive buffer arrived)], ?_, ?_⟩
      · simp [Link.request, logging, written, fetched, Bus.read]
      · simpa [Link.request, logging, written, fetched, Bus.read, succeeded] using
          Asked.unanswered error (Bytes.receive buffer arrived)
    · refine ⟨[.write receiverAddress [command] (.ok ()), .pause settleMillis,
        .read receiverAddress buffer.length (.ok ()) (Bytes.receive buffer arrived)], ?_, ?_⟩
      · simp [Link.request, logging, written, fetched, Bus.read]
      · simpa [Link.request, logging, written, fetched, Bus.read, succeeded] using
          @Asked.answered command _ (Bytes.receive buffer arrived)
            (Bytes.length_receive buffer arrived)

theorem frameCount?_adds (logged : Logged Env) :
    logged.Adds
      (fun events count => ∃ announced, Asked frameCountCommand 2 events announced ∧
        count = announced.map Bytes.ofLittleEndian)
      (link.logging.frameCount? logged) := by
  obtain ⟨events, added, asked⟩ :=
    link.request_adds frameCountCommand (Bytes.zeros 2) logged
  refine ⟨events, added, _, asked, ?_⟩
  unfold Link.frameCount?
  dsimp only
  split
  · rfl
  · rfl

theorem download?_adds {buffer : Bytes} (size : buffer.length = receiveBufferSize)
    (logged : Logged Env) :
    logged.Adds (fun events answer => Attempt events answer.1)
      (link.logging.download? buffer logged) := by
  have long : ¬ buffer.length < 2 := by
    rw [size]
    decide
  have pair : (buffer.take 2).length = 2 := by
    rw [List.length_take, size]
    decide
  obtain ⟨probe, first, asked⟩ := link.request_adds getFrameCommand (buffer.take 2) logged
  have probed := link.logging.length_request receiverAddress [getFrameCommand] (buffer.take 2)
    logged
  rw [pair] at asked probed
  unfold Link.download?
  rw [if_neg long]
  generalize link.logging.request receiverAddress [getFrameCommand] (buffer.take 2) logged =
    answer at first asked probed
  rcases answer with ⟨⟨_ | _, sizeBytes⟩, middle⟩
  · exact ⟨probe, first, .unsized asked⟩
  · have two : sizeBytes.length = 2 := probed
    have front : (sizeBytes ++ buffer.drop 2).take 2 = sizeBytes := List.take_left' two
    have whole : (sizeBytes ++ buffer.drop 2).length = receiveBufferSize := by
      rw [List.length_append, List.length_drop, two]
      omega
    have part : ((sizeBytes ++ buffer.drop 2).take (downloadSpan sizeBytes)).length =
        downloadSpan sizeBytes := by
      rw [List.length_take, whole]
      exact Nat.min_eq_left (Nat.min_le_left _ _)
    obtain ⟨download, second, continued⟩ := link.request_adds getFrameCommand
      ((sizeBytes ++ buffer.drop 2).take (downloadSpan sizeBytes)) middle
    rw [part] at continued
    simp only [front, whole, ↓reduceIte]
    refine ⟨probe ++ download, ?_, ?_⟩
    · rw [← List.append_assoc, ← first]
      exact second
    · have attempt := Attempt.sized asked continued
      unfold downloadSpan at attempt
      generalize link.logging.request receiverAddress [getFrameCommand]
        ((sizeBytes ++ buffer.drop 2).take
          (min receiveBufferSize (Bytes.ofLittleEndian sizeBytes + headerSize))) middle =
            answer at attempt ⊢
      rcases answer with ⟨⟨_ | _, received⟩, later⟩
      · exact attempt
      · exact attempt

theorem downloadVerified?_adds (attempts : Nat) {buffer : Bytes}
    (size : buffer.length = receiveBufferSize) (logged : Logged Env) :
    logged.Adds (fun events answer => Download attempts events answer)
      (link.logging.downloadVerified? attempts buffer logged) := by
  induction attempts generalizing buffer logged with
  | zero => exact ⟨[], (List.append_nil _).symm, .exhausted⟩
  | succ attempts inductionHypothesis =>
      obtain ⟨events, added, attempt⟩ := link.download?_adds size logged
      have kept := link.logging.length_download? buffer logged
      unfold Link.downloadVerified?
      generalize link.logging.download? buffer logged = done at added attempt kept
      rcases done with ⟨⟨frame, left⟩, middle⟩
      obtain ⟨rest, later, remaining⟩ := inductionHypothesis (kept.trans size) middle
      have repeated (unverified : ∀ other ∈ frame, other.isVerified = false) :
          logged.Adds (fun events answer => Download (attempts + 1) events answer)
            (link.logging.downloadVerified? attempts left middle) :=
        ⟨events ++ rest, by rw [later, added, List.append_assoc],
          .repeated attempt unverified remaining⟩
      cases frame with
      | none => exact repeated (by simp)
      | some frame =>
          dsimp only
          cases verified : frame.isVerified with
          | true => exact ⟨events, added, .verified attempt verified⟩
          | false => exact repeated (by simpa using verified)

end Link

namespace Radio

open Comm

variable (link : Link Env)

theorem processFrame_adds (code : UInt32) (radio : Radio (Logged Env)) :
    ∃ download frame removal,
      (radio.processFrame link.logging code).2.env.log =
        radio.env.log ++ (download ++ [.write receiverAddress [removeFrameCommand] removal]) ∧
      Download downloadAttempts download frame ∧
      (radio.processFrame link.logging code).2.stats =
        (if frame.isSome then
          { radio.stats with framesReceived := radio.stats.framesReceived.bump }
        else
          { radio.stats with framesDropped := radio.stats.framesDropped.bump }) ∧
      (radio.processFrame link.logging code).1 = .ofFrame? code frame := by
  obtain ⟨download, added, word⟩ := link.downloadVerified?_adds downloadAttempts
    (Bytes.length_zeros receiveBufferSize) radio.env
  unfold processFrame
  generalize link.logging.downloadVerified? downloadAttempts (Bytes.zeros receiveBufferSize)
    radio.env = downloaded at added word ⊢
  rcases downloaded with ⟨frame, middle⟩
  refine ⟨download, frame, (link.bus.write receiverAddress [removeFrameCommand] middle.env).1,
    ?_, word, ?_, ?_⟩
  · rw [← List.append_assoc, ← added]
    cases frame with
    | none => rfl
    | some frame => rfl
  · cases frame with
    | none => rfl
    | some frame => rfl
  · cases frame with
    | none => rfl
    | some frame => rfl

/-- The log of the frames, what the statistics count of them and what they ask for. -/
theorem processFrames_logs (code : UInt32) (count : Nat) (request : GroundRequest)
    (radio : Radio (Logged Env)) :
    ∃ frames events,
      (radio.processFrames link.logging code count request).2.env.log = radio.env.log ++ events ∧
      Drain frames events ∧ frames.length = count ∧
      (radio.processFrames link.logging code count request).2.stats =
        { radio.stats with
          framesReceived := radio.stats.framesReceived.add (frames.countP Option.isSome)
          framesDropped := radio.stats.framesDropped.add (frames.countP Option.isNone) } ∧
      (radio.processFrames link.logging code count request).1 =
        (frames.map (.ofFrame? code)).foldl .merge request := by
  induction count generalizing request radio with
  | zero => exact ⟨[], [], (List.append_nil _).symm, .done, rfl, by simp [processFrames], rfl⟩
  | succ count inductionHypothesis =>
      obtain ⟨download, frame, removal, added, word, stats, asked⟩ :=
        processFrame_adds link code radio
      obtain ⟨frames, events, later, drain, length, laterStats, merged⟩ := inductionHypothesis
        (request.merge (radio.processFrame link.logging code).1)
        (radio.processFrame link.logging code).2
      refine ⟨frame :: frames, download ++ .write receiverAddress [removeFrameCommand] removal ::
        events, ?_, .frame word drain, congrArg (· + 1) length, ?_, ?_⟩
      · rw [processFrames, later, added]
        simp
      · rw [processFrames, laterStats, stats]
        cases frame with
        | none => simp
        | some frame => simp
      · rw [processFrames, merged, asked, List.map_cons, List.foldl_cons]

theorem processFrames_adds (code : UInt32) (count : Nat) (request : GroundRequest)
    (radio : Radio (Logged Env)) :
    ∃ frames events,
      (radio.processFrames link.logging code count request).2.env.log = radio.env.log ++ events ∧
      Drain frames events ∧ frames.length = count ∧
      (radio.processFrames link.logging code count request).2.stats =
        { radio.stats with
          framesReceived := radio.stats.framesReceived.add (frames.countP Option.isSome)
          framesDropped := radio.stats.framesDropped.add (frames.countP Option.isNone) } := by
  obtain ⟨frames, events, added, drain, length, stats, -⟩ :=
    processFrames_logs link code count request radio
  exact ⟨frames, events, added, drain, length, stats⟩

theorem resetWatchdog_adds (address : Address) (radio : Radio (Logged Env)) :
    ∃ result,
      (radio.resetWatchdog link.logging address).2.env.log =
        radio.env.log ++ [.write address [resetWatchdogCommand] result] ∧
      (radio.resetWatchdog link.logging address).2.stats =
        { radio.stats with
          watchdogResets := radio.stats.watchdogResets.add ([result].countP Link.succeeded) } := by
  rcases written : link.bus.write address [resetWatchdogCommand] radio.env.env with
    ⟨error | _, later⟩
  · refine ⟨.error error, ?_⟩
    simp [resetWatchdog, Link.send, Link.logging, written, Link.succeeded]
  · refine ⟨.ok (), ?_⟩
    simp [resetWatchdog, Link.send, Link.logging, written, Link.succeeded, Tally.add_one]

def logging (radio : Radio Env) : Radio (Logged Env) :=
  { stats := radio.stats, env := { env := radio.env, log := [] } }

/--
Whatever the bus does, a poll is the request for the frame count, then for
every announced frame at most three attempts and one removal, and at last a
reset of each watchdog; and the statistics count what has happened.
-/
theorem poll_transfers (code : UInt32) (radio : Radio Env) :
    ∃ (counting draining : List LinkEvent) (announced : Option Bytes)
      (frames : List (Option Frame)) (receiver transmitter : BusResult),
      (radio.logging.poll link.logging code).2.env.log =
        counting ++ draining ++
          [.write receiverAddress [resetWatchdogCommand] receiver,
            .write transmitterAddress [resetWatchdogCommand] transmitter] ∧
      Asked frameCountCommand 2 counting announced ∧
      frames.length = (announced.map Bytes.ofLittleEndian).getD 0 ∧
      Drain frames draining ∧
      Metered (13 * frames.length + 4) frames.length
        (radio.logging.poll link.logging code).2.env.log ∧
      (radio.poll link code).2.stats =
        { radio.stats with
          framesReceived := radio.stats.framesReceived.add (frames.countP Option.isSome)
          framesDropped := radio.stats.framesDropped.add (frames.countP Option.isNone)
          watchdogResets :=
            radio.stats.watchdogResets.add ([receiver, transmitter].countP Link.succeeded) } ∧
      frames.countP Option.isSome + frames.countP Option.isNone = frames.length ∧
      (radio.logging.poll link.logging code).1 = (radio.poll link code).1 ∧
      (radio.logging.poll link.logging code).2.env.env = (radio.poll link code).2.env := by
  have same := showing_poll (link.logging_showsAt receiverAddress)
    (link.logging_showsAt transmitterAddress) code radio.logging
  rw [show radio.logging.showing Logged.env = radio from rfl] at same
  let counted := link.logging.frameCount? radio.logging.env
  let drained := processFrames link.logging code (counted.1.getD 0) .none
    { radio.logging with env := counted.2 }
  obtain ⟨counting, countingAdded, announced, asked, count⟩ :=
    link.frameCount?_adds radio.logging.env
  obtain ⟨frames, draining, drainingAdded, drain, length, drainingStats⟩ :=
    processFrames_adds link code (counted.1.getD 0) .none { radio.logging with env := counted.2 }
  obtain ⟨receiver, receiverAdded, receiverStats⟩ :=
    resetWatchdog_adds link receiverAddress drained.2
  obtain ⟨transmitter, transmitterAdded, transmitterStats⟩ :=
    resetWatchdog_adds link transmitterAddress
      (drained.2.resetWatchdog link.logging receiverAddress).2
  have log : (radio.logging.poll link.logging code).2.env.log = counting ++ draining ++
      [.write receiverAddress [resetWatchdogCommand] receiver,
        .write transmitterAddress [resetWatchdogCommand] transmitter] := by
    change ((drained.2.resetWatchdog link.logging receiverAddress).2.resetWatchdog link.logging
      transmitterAddress).2.env.log = _
    rw [transmitterAdded, receiverAdded, drainingAdded, countingAdded]
    simp [logging]
  refine ⟨counting, draining, announced, frames, receiver, transmitter, log, asked, ?_, drain,
    ?_, ?_, ?_, ?_, ?_⟩
  · rw [length, count]
  · rw [log]
    have silent : resetWatchdogCommand ≠ frameCountCommand ∧
        resetWatchdogCommand ≠ getFrameCommand := by decide
    have resets := (Metered.command receiverAddress receiver silent).append
      (Metered.command transmitterAddress transmitter silent)
    have whole := ((asked.metered (.inl rfl) (by decide)).append drain.metered).append resets
    exact (whole.cast (by simp; decide)).mono (by omega)
  · rw [same]
    change ((drained.2.resetWatchdog link.logging receiverAddress).2.resetWatchdog link.logging
      transmitterAddress).2.stats = _
    rw [transmitterStats, receiverStats, drainingStats]
    simp [logging, Tally.add_add, List.countP_cons, Nat.add_comm]
  · rw [List.length_eq_countP_add_countP Option.isSome]
    congr 2
    funext frame
    cases frame with
    | none => rfl
    | some frame => rfl
  · rw [same]
  · rw [same]
    rfl

end Radio

end Cubesat
