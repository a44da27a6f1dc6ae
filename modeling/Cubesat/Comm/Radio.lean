import Cubesat.Comm.Link
import Cubesat.Tally

/-!
The radio: polling the receiver, sending frames and keeping statistics.

A poll takes every announced frame off the receiver's queue, also one that
could not be read, and resets both watchdogs whatever happened before.
-/

namespace Cubesat

universe u

structure RadioStats where
  framesReceived : Tally
  framesDropped : Tally
  framesSent : Tally
  framesRejected : Tally
  watchdogResets : Tally
  deriving DecidableEq

def RadioStats.empty : RadioStats :=
  { framesReceived := .zero, framesDropped := .zero, framesSent := .zero, framesRejected := .zero,
    watchdogResets := .zero }

structure Radio (Env : Type u) where
  stats : RadioStats
  env : Env

namespace Radio

variable {Env : Type u}

def start (env : Env) : Radio Env :=
  { stats := .empty, env }

def envLens : Lens (Radio Env) Env where
  get radio := radio.env
  set env radio := { radio with env }

/-- Downloads, interprets and removes the frame at the head of the receiver's queue. -/
def processFrame (link : Link Env) (code : UInt32) (radio : Radio Env) :
    GroundRequest × Radio Env :=
  let download :=
    link.downloadVerified? Comm.downloadAttempts (Bytes.zeros Comm.receiveBufferSize) radio.env
  let removal := link.removeFrame download.2
  match download.1 with
  | some frame =>
      (GroundRequest.ofPayload code frame.payload,
        { stats := { radio.stats with framesReceived := radio.stats.framesReceived.bump }
          env := removal.2 })
  | none =>
      (.none,
        { stats := { radio.stats with framesDropped := radio.stats.framesDropped.bump }
          env := removal.2 })

/-- Processes a number of frames and merges what they ask for into an earlier request. -/
def processFrames (link : Link Env) (code : UInt32) :
    (count : Nat) → GroundRequest → Radio Env → GroundRequest × Radio Env
  | 0, request, radio => (request, radio)
  | count + 1, request, radio =>
      let done := radio.processFrame link code
      processFrames link code count (request.merge done.1) done.2

def resetWatchdog (link : Link Env) (address : Address) (radio : Radio Env) : Bool × Radio Env :=
  let done := link.send address [Comm.resetWatchdogCommand] radio.env
  if done.1 then
    (true, { stats := { radio.stats with watchdogResets := radio.stats.watchdogResets.bump }
             env := done.2 })
  else
    (false, { radio with env := done.2 })

/--
Drains the receiver's queue and keeps both watchdogs alive. Returns the most
significant request among the frames.
-/
def poll (link : Link Env) (code : UInt32) (radio : Radio Env) : GroundRequest × Radio Env :=
  let count := link.frameCount? radio.env
  let drained := processFrames link code (count.1.getD 0) .none { radio with env := count.2 }
  let receiver := drained.2.resetWatchdog link Comm.receiverAddress
  let transmitter := receiver.2.resetWatchdog link Comm.transmitterAddress
  (drained.1, transmitter.2)

/-- Hands a frame to the transmitter; returns whether it was accepted. -/
def sendFrame (link : Link Env) (frame : Bytes) (radio : Radio Env) : Bool × Radio Env :=
  if Comm.maxDownlinkSize < frame.length then
    (false, radio)
  else
    let done :=
      link.request Comm.transmitterAddress (Comm.sendFrameCommand :: frame) (Bytes.zeros 1)
        radio.env
    if done.1.1 then
      if done.1.2 = [Comm.frameRefused] then
        (false, { stats := { radio.stats with framesRejected := radio.stats.framesRejected.bump }
                  env := done.2 })
      else
        (true, { stats := { radio.stats with framesSent := radio.stats.framesSent.bump }
                 env := done.2 })
    else
      (false, { radio with env := done.2 })

end Radio

end Cubesat
