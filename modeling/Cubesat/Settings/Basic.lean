import Cubesat.Bytes
import Cubesat.Sail.Basic

/-!
Settings that survive a reset, and the note whether they have changed since
they were last saved.
-/

namespace Cubesat

structure ClockWeights where
  mcu : Int16
  external : Int16
  deriving DecidableEq

/-- A call sign of at most sixteen bytes in UTF-8. -/
structure Callsign where
  text : String
  fits : text.utf8ByteSize ≤ 16
  deriving DecidableEq

namespace Callsign

def ofString? (text : String) : Option Callsign :=
  if fits : text.utf8ByteSize ≤ 16 then some ⟨text, fits⟩ else none

def initial : Callsign :=
  ⟨"SP9PWS", by decide⟩

end Callsign

structure Settings where
  clockWeights : ClockWeights
  /-- Antennas are not deployed while this is set. -/
  antennaDisabled : Bool
  callsign : Callsign
  /-- Consecutive bus failures that power cycle the flight computer. -/
  commLimit : UInt8
  sail : SailRecord
  /-- Built-in detumbling is not started while this is set. -/
  detumblingDisabled : Bool
  deriving DecidableEq

def Settings.initial : Settings :=
  { clockWeights := { mcu := 1, external := 1 }
    antennaDisabled := false
    callsign := .initial
    commLimit := 5
    sail := .closed
    detumblingDisabled := false }

inductive Setting where
  | clockWeights (value : ClockWeights)
  | antennaDisabled (value : Bool)
  | callsign (value : Callsign)
  | commLimit (value : UInt8)
  | sail (value : SailRecord)
  | detumblingDisabled (value : Bool)
  deriving DecidableEq

def Settings.apply (settings : Settings) : Setting → Settings
  | .clockWeights value => { settings with clockWeights := value }
  | .antennaDisabled value => { settings with antennaDisabled := value }
  | .callsign value => { settings with callsign := value }
  | .commLimit value => { settings with commLimit := value }
  | .sail value => { settings with sail := value }
  | .detumblingDisabled value => { settings with detumblingDisabled := value }

structure PersistentState where
  settings : Settings
  /-- The settings may differ from the saved ones. -/
  modified : Bool
  deriving DecidableEq

namespace PersistentState

def initial : PersistentState :=
  { settings := .initial, modified := false }

/-- Replaces a setting, also by an equal value, and takes note of the change. -/
def set (setting : Setting) (state : PersistentState) : PersistentState :=
  { settings := state.settings.apply setting, modified := true }

def markSaved (state : PersistentState) : PersistentState :=
  { state with modified := false }

@[simp]
theorem settings_set (setting : Setting) (state : PersistentState) :
    (state.set setting).settings = state.settings.apply setting := rfl

@[simp]
theorem modified_set (setting : Setting) (state : PersistentState) :
    (state.set setting).modified = true := rfl

@[simp]
theorem settings_markSaved (state : PersistentState) :
    state.markSaved.settings = state.settings := rfl

@[simp]
theorem modified_markSaved (state : PersistentState) : state.markSaved.modified = false := rfl

end PersistentState

end Cubesat
