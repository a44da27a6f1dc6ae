import Cubesat.Bus.Basic

/-!
Errors of the devices that the flight computer commands.
-/

namespace Cubesat

inductive DeviceError where
  | bus (error : BusError)
  | notResponding
  | rejected
  deriving DecidableEq

def DeviceError.all : List DeviceError :=
  notResponding :: rejected :: BusError.all.map bus

def DeviceError.name : DeviceError → String
  | bus error => error.name
  | notResponding => "NotResponding"
  | rejected => "Rejected"

def DeviceError.message : DeviceError → String
  | bus error => "bus transfer failed: " ++ error.message
  | notResponding => "device is not responding"
  | rejected => "device rejected the request"

end Cubesat
