import Cubesat.Bytes
import Cubesat.Lens

/-!
Addressed byte transfers between the flight computer and its devices.

A bus is a set of step functions over the state of whatever is attached to it.
Nothing is assumed about them, so a statement about every bus covers devices
that fail at any moment and answer anything.
-/

namespace Cubesat

universe u v

/-- The seven-bit address of a device. -/
abbrev Address := UInt8

inductive BusError where
  | nack
  | busError
  | arbitrationLost
  | usageFault
  | softwareFault
  | lineLatched
  | timeout
  | failure
  | lineAlreadyLatched
  deriving DecidableEq

inductive BusError.Class where
  | ioError
  | timeout
  | protocolError
  deriving DecidableEq

namespace BusError

def all : List BusError :=
  [nack, busError, arbitrationLost, usageFault, softwareFault, lineLatched, timeout, failure,
    lineAlreadyLatched]

def name : BusError → String
  | nack => "Nack"
  | busError => "BusError"
  | arbitrationLost => "ArbitrationLost"
  | usageFault => "UsageFault"
  | softwareFault => "SoftwareFault"
  | lineLatched => "LineLatched"
  | timeout => "Timeout"
  | failure => "Failure"
  | lineAlreadyLatched => "LineAlreadyLatched"

def code : BusError → Int
  | nack => -1
  | busError => -2
  | arbitrationLost => -3
  | usageFault => -4
  | softwareFault => -5
  | lineLatched => -6
  | timeout => -7
  | failure => -8
  | lineAlreadyLatched => -9

def Class.name : Class → String
  | .ioError => "IoError"
  | .timeout => "Timeout"
  | .protocolError => "ProtocolError"

def group : BusError → Class
  | timeout => .timeout
  | usageFault | softwareFault | failure => .protocolError
  | nack | busError | arbitrationLost | lineLatched | lineAlreadyLatched => .ioError

def message : BusError → String
  | nack => "device did not acknowledge"
  | busError => "bus error"
  | arbitrationLost => "arbitration lost"
  | usageFault => "peripheral usage fault"
  | softwareFault => "driver software fault"
  | lineLatched => "bus line latched"
  | timeout => "transfer timed out"
  | failure => "transfer failed"
  | lineAlreadyLatched => "bus line was already latched"

end BusError

abbrev BusResult := Except BusError Unit

/-- A bus over the state of the devices attached to it. -/
structure Bus (Env : Type u) where
  write : Address → Bytes → Env → BusResult × Env
  /-- The bytes that arrive when a device is to fill a buffer; a failed read may leave some too. -/
  fetch : Address → Bytes → Env → (BusResult × Bytes) × Env
  /-- A write and a read in a single transaction, with the bytes that arrive. -/
  exchange : Address → Bytes → Bytes → Env → (BusResult × Bytes) × Env

namespace Bus

variable {Env : Type u} {Whole : Type v}

/-- Reads into a buffer and returns the buffer as the read leaves it. -/
def read (bus : Bus Env) (address : Address) (buffer : Bytes) (env : Env) :
    (BusResult × Bytes) × Env :=
  let done := bus.fetch address buffer env
  ((done.1.1, Bytes.receive buffer done.1.2), done.2)

def writeRead (bus : Bus Env) (address : Address) (output buffer : Bytes) (env : Env) :
    (BusResult × Bytes) × Env :=
  let done := bus.exchange address output buffer env
  ((done.1.1, Bytes.receive buffer done.1.2), done.2)

def through (lens : Lens Whole Env) (bus : Bus Env) : Bus Whole where
  write address data := lens.lift (bus.write address data)
  fetch address buffer := lens.lift (bus.fetch address buffer)
  exchange address output buffer := lens.lift (bus.exchange address output buffer)

@[simp]
theorem length_read (bus : Bus Env) (address : Address) (buffer : Bytes) (env : Env) :
    (bus.read address buffer env).1.2.length = buffer.length := by
  simp [read]

@[simp]
theorem length_writeRead (bus : Bus Env) (address : Address) (output buffer : Bytes) (env : Env) :
    (bus.writeRead address output buffer env).1.2.length = buffer.length := by
  simp [writeRead]

end Bus

end Cubesat
