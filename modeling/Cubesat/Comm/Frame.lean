import Cubesat.Comm.Wire

/-!
Uplinked frames and what the ground asks for in them.
-/

namespace Cubesat

/--
A frame taken from the receiver: the size that the transceiver claims and the
bytes that were captured. The two agree only after a complete download.
-/
structure Frame where
  claimedSize : Nat
  payload : Bytes
  /-- Nothing beyond the receive buffer is captured. -/
  payload_le : payload.length ≤ Comm.receiveBufferSize
  deriving DecidableEq

namespace Frame

/-- A frame of captured bytes; those beyond the receive buffer are dropped. -/
def capture (claimedSize : Nat) (content : Bytes) : Frame :=
  ⟨claimedSize, content.take Comm.receiveBufferSize, by simp only [List.length_take]; omega⟩

def isSizeValid (frame : Frame) : Bool :=
  frame.claimedSize ≤ Comm.maxDownlinkSize

def isComplete (frame : Frame) : Bool :=
  frame.payload.length == frame.claimedSize

/-- The frame can be acted upon. -/
def isVerified (frame : Frame) : Bool :=
  frame.isSizeValid && frame.isComplete

end Frame

inductive GroundRequest where
  | none
  | sendBeacon
  | reboot
  deriving DecidableEq

namespace GroundRequest

/-- The more significant of two requests: a reboot before a beacon before nothing. -/
def merge : GroundRequest → GroundRequest → GroundRequest
  | reboot, _ => reboot
  | _, reboot => reboot
  | sendBeacon, _ => sendBeacon
  | _, sendBeacon => sendBeacon
  | none, none => none

/--
What a frame's payload asks for: four bytes of security code, the most
significant first, and a command byte. Every command other than the beacon
command asks for a reboot.
-/
def ofPayload (code : UInt32) : Bytes → GroundRequest
  | a :: b :: c :: d :: rest =>
      if Bytes.ofBigEndian [a, b, c, d] = code.toNat then
        match rest with
        | [] => none
        | command :: _ => if command = Comm.beaconCommand then sendBeacon else reboot
      else
        none
  | _ => none

def all : List GroundRequest :=
  [none, sendBeacon, reboot]

def name : GroundRequest → String
  | none => "None"
  | sendBeacon => "SendBeacon"
  | reboot => "Reboot"

end GroundRequest

end Cubesat
