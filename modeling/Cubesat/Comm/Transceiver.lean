import Cubesat.Comm.Wire

/-!
A simulated transceiver: a receiver queue that tests and ground stations fill,
and a transmitter queue that they empty.
-/

namespace Cubesat

structure Transceiver where
  /-- Frames that wait to be downloaded, oldest first. -/
  uplink : List Bytes
  /-- Frames that wait to be transmitted, oldest first. -/
  downlink : List Bytes
  receiverAnswer : Bytes
  transmitterAnswer : Bytes
  receiverResets : UInt32
  transmitterResets : UInt32
  /-- The byte of the bit rate that was selected last. -/
  bitRate : Option UInt8
  offline : Bool
  deriving DecidableEq

namespace Transceiver

def downlinkCapacity : Nat := 40

def idle : Transceiver :=
  { uplink := [], downlink := [], receiverAnswer := [], transmitterAnswer := []
    receiverResets := 0, transmitterResets := 0, bitRate := none, offline := false }

def receiveFrame (frame : Bytes) (device : Transceiver) : Transceiver :=
  { device with uplink := device.uplink ++ [frame] }

def commandFrame (code : UInt32) (command : UInt8) : Bytes :=
  Bytes.bigEndian 4 code.toNat ++ [command]

/-- Empties the transmitter queue as if every frame had gone out over the air. -/
def transmitAll (device : Transceiver) : List Bytes × Transceiver :=
  (device.downlink, { device with downlink := [] })

/-- A number in two bytes; larger ones count as the largest that fits. -/
def word (number : Nat) : Bytes :=
  Bytes.littleEndian 2 (min number 65535)

@[simp]
theorem length_word (number : Nat) : (word number).length = 2 :=
  Bytes.length_littleEndian _ _

@[simp]
theorem ofLittleEndian_word (number : Nat) :
    Bytes.ofLittleEndian (word number) = min number 65535 := by
  apply Bytes.ofLittleEndian_littleEndian
  simp only [Nat.pow_eq]
  omega

def signalBytes : Bytes :=
  [0x10, 0x02, 0x80, 0x01]

@[simp]
theorem length_signalBytes : signalBytes.length = 4 := rfl

def receiverCommand (data : Bytes) (device : Transceiver) : BusResult × Transceiver :=
  match data with
  | [] => (.error .nack, device)
  | command :: _ =>
      if command = Comm.frameCountCommand then
        (.ok (), { device with receiverAnswer := word device.uplink.length })
      else if command = Comm.getFrameCommand then
        let frame := device.uplink.headD []
        (.ok (), { device with receiverAnswer := word frame.length ++ signalBytes ++ frame })
      else if command = Comm.removeFrameCommand then
        (.ok (), { device with uplink := device.uplink.tail })
      else if command = Comm.resetWatchdogCommand then
        (.ok (), { device with receiverResets := device.receiverResets + 1 })
      else
        (.error .nack, device)

def transmitterCommand (data : Bytes) (device : Transceiver) : BusResult × Transceiver :=
  match data with
  | [] => (.error .nack, device)
  | command :: content =>
      if command = Comm.sendFrameCommand then
        if device.downlink.length < downlinkCapacity then
          (.ok (),
            { device with
              downlink := device.downlink ++ [content]
              transmitterAnswer :=
                [UInt8.ofNat (downlinkCapacity - (device.downlink.length + 1))] })
        else
          (.ok (), { device with transmitterAnswer := [Comm.frameRefused] })
      else if command = Comm.resetWatchdogCommand then
        (.ok (), { device with transmitterResets := device.transmitterResets + 1 })
      else
        match content with
        | [rate] =>
            if command = Comm.bitRateCommand then
              (.ok (), { device with bitRate := some rate })
            else
              (.error .nack, device)
        | _ => (.error .nack, device)

def onWrite (address : Address) (data : Bytes) (device : Transceiver) : BusResult × Transceiver :=
  if device.offline then
    (.error .nack, device)
  else if address = Comm.receiverAddress then
    device.receiverCommand data
  else if address = Comm.transmitterAddress then
    device.transmitterCommand data
  else
    (.error .nack, device)

/-- The bytes that a read at an address brings: the answer, and zeros after its end. -/
def onRead (address : Address) (size : Nat) (device : Transceiver) : BusResult × Bytes :=
  if device.offline then
    (.error .nack, [])
  else if address = Comm.receiverAddress then
    (.ok (), Bytes.fitted size device.receiverAnswer)
  else if address = Comm.transmitterAddress then
    (.ok (), Bytes.fitted size device.transmitterAnswer)
  else
    (.error .nack, [])

def bus : Bus Transceiver where
  write := onWrite
  fetch address buffer device := (device.onRead address buffer.length, device)
  exchange address output buffer device :=
    match device.onWrite address output with
    | (.error error, device) => ((.error error, []), device)
    | (.ok (), device) => (device.onRead address buffer.length, device)

end Transceiver

end Cubesat
