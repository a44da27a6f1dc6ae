import Cubesat.Bus.Basic
import Cubesat.Text.Hex

/-!
Scripted devices: transfers end as planned, and a log tells what was asked of
them.
-/

namespace Cubesat

/-- How a transfer is to end: with the bytes that a read brings, or with a failure. -/
abbrev PlannedTransfer := Except BusError Bytes

inductive Transfer where
  | write (address : Address) (data : Bytes)
  | read (address : Address) (size : Nat)
  | writeRead (address : Address) (output : Bytes) (size : Nat)
  deriving DecidableEq

def Transfer.message : Transfer → String
  | write address data => "w " ++ Hex.text [address] ++ " " ++ Hex.text data
  | read address size => "r " ++ Hex.text [address] ++ " " ++ toString size
  | writeRead address output size =>
      "wr " ++ Hex.text [address] ++ " " ++ Hex.text output ++ " " ++ toString size

structure LogEntry where
  device : Nat
  transfer : Transfer
  failure : Option BusError
  deriving DecidableEq

def LogEntry.line (entry : LogEntry) : String :=
  toString entry.device ++ ": " ++ entry.transfer.message ++ " -> " ++
    match entry.failure with
    | none => "ok"
    | some error => error.name

/-- The planned ends of the transfers to come; a transfer beyond the plan succeeds. -/
structure Script where
  writes : List PlannedTransfer
  reads : List PlannedTransfer

namespace Script

def empty : Script :=
  { writes := [], reads := [] }

def extend (more script : Script) : Script :=
  { writes := script.writes ++ more.writes, reads := script.reads ++ more.reads }

def nextWrite (script : Script) : PlannedTransfer × Script :=
  match script.writes with
  | [] => (.ok [], script)
  | planned :: rest => (planned, { script with writes := rest })

def nextRead (script : Script) : PlannedTransfer × Script :=
  match script.reads with
  | [] => (.ok [], script)
  | planned :: rest => (planned, { script with reads := rest })

end Script

structure ScriptedDevice where
  script : Script
  log : List LogEntry

namespace ScriptedDevice

def record (device : Nat) (transfer : Transfer) (planned : PlannedTransfer) (script : Script)
    (log : List LogEntry) : ScriptedDevice :=
  let failure :=
    match planned with
    | .ok _ => none
    | .error error => some error
  { script, log := { device, transfer, failure } :: log }

/-- What a planned read brings into a buffer: it fills all of it, or leaves it alone. -/
def brought (size : Nat) : PlannedTransfer → BusResult × Bytes
  | .ok bytes => (.ok (), Bytes.fitted size bytes)
  | .error error => (.error error, [])

def bus (number : Nat) : Bus ScriptedDevice where
  write address data device :=
    let (planned, script) := device.script.nextWrite
    ((brought 0 planned).1, record number (.write address data) planned script device.log)
  fetch address buffer device :=
    let (planned, script) := device.script.nextRead
    (brought buffer.length planned,
      record number (.read address buffer.length) planned script device.log)
  exchange address output buffer device :=
    let (planned, script) := device.script.nextRead
    (brought buffer.length planned,
      record number (.writeRead address output buffer.length) planned script device.log)

end ScriptedDevice

end Cubesat
