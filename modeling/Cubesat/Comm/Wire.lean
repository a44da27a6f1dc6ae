import Cubesat.Bus.Basic

/-!
The vocabulary of the transceiver: two devices on the bus, a receiver that
holds a queue of uplinked frames and a transmitter that takes frames for
downlink, and the commands of each.
-/

namespace Cubesat.Comm

def receiverAddress : Address := 0x60

def transmitterAddress : Address := 0x61

def frameCountCommand : UInt8 := 0x21

def getFrameCommand : UInt8 := 0x22

def removeFrameCommand : UInt8 := 0x24

def sendFrameCommand : UInt8 := 0x10

def bitRateCommand : UInt8 := 0x28

def resetWatchdogCommand : UInt8 := 0xCC

def frameRefused : UInt8 := 0xFF

/-- The command byte of an uplinked frame that asks for a beacon. -/
def beaconCommand : UInt8 := 0xAE

/-- The code that uplinked frames start with unless another one is configured. -/
def defaultSecurityCode : UInt32 := 0xBAADF00D

/-- The largest frame that the transmitter takes. -/
def maxDownlinkSize : Nat := 235

/-- The bytes in front of a received frame: its size, the Doppler offset and the signal strength. -/
def headerSize : Nat := 6

/-- Room for a header and the largest frame. -/
def receiveBufferSize : Nat := 241

def downloadAttempts : Nat := 3

/-- The milliseconds between a request and its answer. -/
def settleMillis : Nat := 2

inductive BitRate where
  | comm1200
  | comm2400
  | comm4800
  | comm9600
  deriving DecidableEq

def BitRate.all : List BitRate :=
  [comm1200, comm2400, comm4800, comm9600]

def BitRate.name : BitRate → String
  | comm1200 => "Comm1200"
  | comm2400 => "Comm2400"
  | comm4800 => "Comm4800"
  | comm9600 => "Comm9600"

def BitRate.byte : BitRate → UInt8
  | comm1200 => 1
  | comm2400 => 2
  | comm4800 => 4
  | comm9600 => 8

end Cubesat.Comm
