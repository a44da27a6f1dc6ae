import Cubesat.Comm.Frame

/-!
Exchanges with the transceiver.

Neither of its devices stretches the bus clock, so a request that expects an
answer is a write, a pause and a separate read. A failed transfer ends the
exchange.
-/

namespace Cubesat

universe u

/-- A bus together with a way to let time pass. -/
structure Link (Env : Type u) where
  bus : Bus Env
  pause : Nat → Env → Env

namespace Link

variable {Env : Type u}

def succeeded : BusResult → Bool
  | .ok () => true
  | .error _ => false

/-- Sends bytes that need no answer; returns whether they went out. -/
def send (link : Link Env) (address : Address) (data : Bytes) (env : Env) : Bool × Env :=
  let done := link.bus.write address data env
  (succeeded done.1, done.2)

/--
Sends a request, waits for the device and reads its answer into a buffer.
Returns whether all of it went well, and the buffer. An empty request is not
sent.
-/
def request (link : Link Env) (address : Address) (request buffer : Bytes) (env : Env) :
    (Bool × Bytes) × Env :=
  if request.isEmpty then
    ((false, buffer), env)
  else
    match link.bus.write address request env with
    | (.error _, env) => ((false, buffer), env)
    | (.ok (), env) =>
        let done := link.bus.read address buffer (link.pause Comm.settleMillis env)
        ((succeeded done.1.1, done.1.2), done.2)

@[simp]
theorem length_request (link : Link Env) (address : Address) (request buffer : Bytes) (env : Env) :
    (link.request address request buffer env).1.2.length = buffer.length := by
  unfold Link.request
  split
  · rfl
  · rcases link.bus.write address request env with ⟨_ | _, middle⟩
    · rfl
    · exact Bus.length_read _ _ _ _

def frameCount? (link : Link Env) (env : Env) : Option Nat × Env :=
  let done := link.request Comm.receiverAddress [Comm.frameCountCommand] (Bytes.zeros 2) env
  (if done.1.1 then some (Bytes.ofLittleEndian done.1.2) else none, done.2)

/--
One attempt to download the frame at the head of the receiver's queue. A first
read learns its size; a second one fetches the header and as much of the frame
as the buffer holds. Returns the buffer too.
-/
def download? (link : Link Env) (buffer : Bytes) (env : Env) : (Option Frame × Bytes) × Env :=
  if buffer.length < 2 then
    ((none, buffer), env)
  else
    let probe := link.request Comm.receiverAddress [Comm.getFrameCommand] (buffer.take 2) env
    let buffer := probe.1.2 ++ buffer.drop 2
    if probe.1.1 then
      let span := min buffer.length (Bytes.ofLittleEndian (buffer.take 2) + Comm.headerSize)
      let answer :=
        link.request Comm.receiverAddress [Comm.getFrameCommand] (buffer.take span) probe.2
      let received := answer.1.2
      let frame :=
        Frame.capture (Bytes.ofLittleEndian (received.take 2)) (received.drop Comm.headerSize)
      ((if answer.1.1 then some frame else none, received ++ buffer.drop span), answer.2)
    else
      ((none, buffer), probe.2)

@[simp]
theorem length_download? (link : Link Env) (buffer : Bytes) (env : Env) :
    (link.download? buffer env).1.2.length = buffer.length := by
  unfold Link.download?
  split
  · rfl
  · dsimp only
    split
    · simp only [List.length_append, length_request, List.length_take, List.length_drop]
      omega
    · simp only [List.length_append, length_request, List.length_take, List.length_drop]
      omega

/-- Attempts a download up to a number of times, until a frame can be acted upon. -/
def downloadVerified? (link : Link Env) : (attempts : Nat) → Bytes → Env → Option Frame × Env
  | 0, _, env => (none, env)
  | attempts + 1, buffer, env =>
      match link.download? buffer env with
      | ((some frame, buffer), env) =>
          if frame.isVerified then
            (some frame, env)
          else
            link.downloadVerified? attempts buffer env
      | ((none, buffer), env) => link.downloadVerified? attempts buffer env

def removeFrame (link : Link Env) (env : Env) : Bool × Env :=
  link.send Comm.receiverAddress [Comm.removeFrameCommand] env

def setBitRate (link : Link Env) (rate : Comm.BitRate) (env : Env) : Bool × Env :=
  link.send Comm.transmitterAddress [Comm.bitRateCommand, rate.byte] env

end Link

end Cubesat
