import Cubesat.Device

/-!
Attitude control: its modes, the coordinator that switches them, and the
coordinator's simulation.
-/

namespace Cubesat

universe u v

inductive AdcsMode where
  | stopped
  | builtinDetumbling
  | experimentalDetumbling
  | experimentalSunpointing
  | disabled
  deriving DecidableEq

namespace AdcsMode

def all : List AdcsMode :=
  [stopped, builtinDetumbling, experimentalDetumbling, experimentalSunpointing, disabled]

def name : AdcsMode → String
  | stopped => "Stopped"
  | builtinDetumbling => "BuiltinDetumbling"
  | experimentalDetumbling => "ExperimentalDetumbling"
  | experimentalSunpointing => "ExperimentalSunpointing"
  | disabled => "Disabled"

end AdcsMode

structure AdcsUnit (Env : Type u) where
  mode : Env → AdcsMode
  startDetumbling : Env → Except DeviceError Unit × Env
  stop : Env → Except DeviceError Unit × Env

def AdcsUnit.through {Env : Type u} {Whole : Type v} (lens : Lens Whole Env) (adcs : AdcsUnit Env) :
    AdcsUnit Whole where
  mode whole := adcs.mode (lens.get whole)
  startDetumbling := lens.lift adcs.startDetumbling
  stop := lens.lift adcs.stop

structure SimulatedAdcs where
  mode : AdcsMode
  /-- A rejecting coordinator refuses every request. -/
  rejecting : Bool
  /-- The requests to start, also those that were refused. -/
  startRequests : UInt32
  /-- The requests to stop, also those that were refused. -/
  stopRequests : UInt32
  deriving DecidableEq

namespace SimulatedAdcs

def idle : SimulatedAdcs :=
  { mode := .stopped, rejecting := false, startRequests := 0, stopRequests := 0 }

def unit : AdcsUnit SimulatedAdcs where
  mode adcs := adcs.mode
  startDetumbling adcs :=
    let adcs := { adcs with startRequests := adcs.startRequests + 1 }
    if adcs.rejecting then
      (.error .rejected, adcs)
    else
      (.ok (), { adcs with mode := .builtinDetumbling })
  stop adcs :=
    let adcs := { adcs with stopRequests := adcs.stopRequests + 1 }
    if adcs.rejecting then
      (.error .rejected, adcs)
    else
      (.ok (), { adcs with mode := .stopped })

end SimulatedAdcs

end Cubesat
