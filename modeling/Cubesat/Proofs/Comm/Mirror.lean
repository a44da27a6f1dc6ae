import Cubesat.Comm.Radio

/-!
The radio on two links, one of which shows a part of the other's environment.

Where the transfers with an address and the pauses of the two links agree on
what is shown, so does everything that the radio does at this address.
-/

namespace Cubesat

universe u v

variable {Env : Type u} {Shown : Type v}

theorem Bus.read_commutes {shown : Env → Shown} {bus : Bus Env} {image : Bus Shown}
    {address : Address} {buffer : Bytes}
    (fetched : Commutes shown (bus.fetch address buffer) (image.fetch address buffer)) :
    Commutes shown (bus.read address buffer) (image.read address buffer) := by
  intro env
  simp only [Bus.read, fetched env]

namespace Link

/-- Attempts a download until a frame can be acted upon, and returns the buffer too. -/
def getFrame? (link : Link Env) : (attempts : Nat) → Bytes → Env → (Option Frame × Bytes) × Env
  | 0, buffer, env => ((none, buffer), env)
  | attempts + 1, buffer, env =>
      match link.download? buffer env with
      | ((some frame, buffer), env) =>
          if frame.isVerified then
            ((some frame, buffer), env)
          else
            link.getFrame? attempts buffer env
      | ((none, buffer), env) => link.getFrame? attempts buffer env

theorem downloadVerified?_eq_getFrame? (link : Link Env) (attempts : Nat) (buffer : Bytes)
    (env : Env) :
    link.downloadVerified? attempts buffer env =
      ((link.getFrame? attempts buffer env).1.1, (link.getFrame? attempts buffer env).2) := by
  induction attempts generalizing buffer env with
  | zero => rfl
  | succ attempts inductionHypothesis =>
      unfold downloadVerified? getFrame?
      rcases link.download? buffer env with ⟨⟨_ | frame, left⟩, middle⟩
      · exact inductionHypothesis left middle
      · dsimp only
        split
        · rfl
        · exact inductionHypothesis left middle

/-- A link shows another one: transfers with an address have the same answers on both. -/
structure ShowsAt (address : Address) (shown : Env → Shown) (link : Link Env)
    (image : Link Shown) : Prop where
  write : ∀ data, Commutes shown (link.bus.write address data) (image.bus.write address data)
  read : ∀ buffer, Commutes shown (link.bus.read address buffer) (image.bus.read address buffer)
  pause : ∀ millis env, image.pause millis (shown env) = shown (link.pause millis env)

variable {shown : Env → Shown} {link : Link Env} {image : Link Shown}

theorem ShowsAt.send {address : Address} (shows : ShowsAt address shown link image)
    (data : Bytes) : Commutes shown (link.send address data) (image.send address data) := by
  intro env
  simp only [Link.send, shows.write data env]

theorem ShowsAt.request {address : Address} (shows : ShowsAt address shown link image)
    (request buffer : Bytes) :
    Commutes shown (link.request address request buffer)
      (image.request address request buffer) := by
  intro env
  unfold Link.request
  split
  · rfl
  · rw [shows.write request env]
    rcases link.bus.write address request env with ⟨_ | _, middle⟩
    · rfl
    · simp only [shows.pause, shows.read buffer (link.pause Comm.settleMillis middle)]

section Receiver

variable (shows : ShowsAt Comm.receiverAddress shown link image)

include shows

theorem ShowsAt.frameCount? : Commutes shown link.frameCount? image.frameCount? := by
  intro env
  simp only [Link.frameCount?, shows.request _ _ env]

theorem ShowsAt.download? (buffer : Bytes) :
    Commutes shown (link.download? buffer) (image.download? buffer) := by
  intro env
  unfold Link.download?
  split
  · rfl
  · simp only [shows.request _ _ env, shows.request _ _ (Prod.snd _)]
    split
    · rfl
    · rfl

theorem ShowsAt.getFrame? (attempts : Nat) (buffer : Bytes) :
    Commutes shown (link.getFrame? attempts buffer) (image.getFrame? attempts buffer) := by
  intro env
  induction attempts generalizing buffer env with
  | zero => rfl
  | succ attempts inductionHypothesis =>
      unfold Link.getFrame?
      rw [shows.download?]
      rcases link.download? buffer env with ⟨⟨_ | frame, left⟩, middle⟩
      · exact inductionHypothesis left middle
      · dsimp only
        split
        · rfl
        · exact inductionHypothesis left middle

theorem ShowsAt.downloadVerified? (attempts : Nat) (buffer : Bytes) :
    Commutes shown (link.downloadVerified? attempts buffer)
      (image.downloadVerified? attempts buffer) := by
  intro env
  simp only [downloadVerified?_eq_getFrame?, shows.getFrame? attempts buffer env]

end Receiver

end Link

namespace Radio

def showing (shown : Env → Shown) (radio : Radio Env) : Radio Shown :=
  { stats := radio.stats, env := shown radio.env }

variable {shown : Env → Shown} {link : Link Env} {image : Link Shown}

theorem showing_processFrame (shows : link.ShowsAt Comm.receiverAddress shown image)
    (code : UInt32) (radio : Radio Env) :
    (radio.showing shown).processFrame image code =
      ((radio.processFrame link code).1, (radio.processFrame link code).2.showing shown) := by
  have downloaded := shows.downloadVerified? Comm.downloadAttempts
    (Bytes.zeros Comm.receiveBufferSize) radio.env
  unfold processFrame Link.removeFrame
  rw [show (radio.showing shown).env = shown radio.env from rfl, downloaded]
  generalize link.downloadVerified? Comm.downloadAttempts
    (Bytes.zeros Comm.receiveBufferSize) radio.env = download
  rcases download with ⟨_ | frame, middle⟩
  · simp only [shows.send, showing]
  · simp only [shows.send, showing]

theorem showing_processFrames (shows : link.ShowsAt Comm.receiverAddress shown image)
    (code : UInt32) (count : Nat) (request : GroundRequest) (radio : Radio Env) :
    (radio.showing shown).processFrames image code count request =
      ((radio.processFrames link code count request).1,
        (radio.processFrames link code count request).2.showing shown) := by
  induction count generalizing request radio with
  | zero => rfl
  | succ count inductionHypothesis =>
      simp only [processFrames, showing_processFrame shows]
      exact inductionHypothesis _ _

theorem showing_resetWatchdog {address : Address} (shows : link.ShowsAt address shown image)
    (radio : Radio Env) :
    (radio.showing shown).resetWatchdog image address =
      ((radio.resetWatchdog link address).1,
        (radio.resetWatchdog link address).2.showing shown) := by
  unfold resetWatchdog
  rw [show (radio.showing shown).env = shown radio.env from rfl, shows.send]
  dsimp only
  split
  · rfl
  · rfl

/-- A poll through a link that shows another one is the same poll as it is seen there. -/
theorem showing_poll (receiver : link.ShowsAt Comm.receiverAddress shown image)
    (transmitter : link.ShowsAt Comm.transmitterAddress shown image) (code : UInt32)
    (radio : Radio Env) :
    (radio.showing shown).poll image code =
      ((radio.poll link code).1, (radio.poll link code).2.showing shown) := by
  let count := link.frameCount? radio.env
  let drained := processFrames link code (count.1.getD 0) .none { radio with env := count.2 }
  have counted : image.frameCount? (radio.showing shown).env = (count.1, shown count.2) :=
    receiver.frameCount? radio.env
  have emptied : processFrames image code (count.1.getD 0) .none
      { radio.showing shown with env := shown count.2 } = (drained.1, drained.2.showing shown) :=
    showing_processFrames receiver code _ _ { radio with env := count.2 }
  simp only [poll, counted, emptied, showing_resetWatchdog receiver,
    showing_resetWatchdog transmitter]
  rfl

theorem showing_sendFrame (shows : link.ShowsAt Comm.transmitterAddress shown image)
    (frame : Bytes) (radio : Radio Env) :
    (radio.showing shown).sendFrame image frame =
      ((radio.sendFrame link frame).1, (radio.sendFrame link frame).2.showing shown) := by
  unfold sendFrame
  split
  · rfl
  · rw [show (radio.showing shown).env = shown radio.env from rfl, shows.request]
    dsimp only
    split
    · split
      · rfl
      · rfl
    · rfl

end Radio

end Cubesat
