import Cubesat.Json.Printer
import Cubesat.Settings.Basic

/-!
Settings as JSON.
-/

namespace Cubesat

/-- The settings of a state as a JSON object; whether they were changed is not part of it. -/
def PersistentState.toJson (state : PersistentState) : Json :=
  let settings := state.settings
  .ofFields
    [("time_correction",
        .ofFields
          [("mcu_timer_weight", .ofInt settings.clockWeights.mcu.toInt),
            ("external_timer_weight", .ofInt settings.clockWeights.external.toInt)]),
      ("antenna", .ofFields [("deployment_disabled", .bool settings.antennaDisabled)]),
      ("message", .ofFields [("callsign", .ofString settings.callsign.text)]),
      ("error_counters", .ofFields [("comm_limit", .ofNat settings.commLimit.toNat)]),
      ("sail", .ofString settings.sail.name),
      ("adcs", .ofFields [("builtin_detumbling_disabled", .bool settings.detumblingDisabled)])]

end Cubesat
