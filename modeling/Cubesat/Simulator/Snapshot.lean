import Cubesat.Computer.Cycle
import Cubesat.Settings.Report

/-!
Snapshots of a simulated mission as JSON.
-/

namespace Cubesat

def Duration.toJson (d : Duration) : Json :=
  .ofFields [("secs", .ofNat d.seconds), ("nanos", .ofNat d.subsecNanos)]

def AntennaElements.toJson (elements : AntennaElements) : Json :=
  .ofFields
    [("deployed", .bool elements.deployed),
      ("deployment_state", .array (elements.toList.map Json.bool))]

def SystemState.toJson (state : SystemState) : Json :=
  .ofFields
    [("time", state.time.toJson),
      ("antenna_state", state.antenna.toJson),
      ("sail_state", .ofString state.sail.name),
      ("adcs_mode", .ofString state.adcs.name),
      ("persistent", state.persistent.toJson)]

def RadioStats.toJson (stats : RadioStats) : Json :=
  .ofFields
    [("frames_received", .ofNat stats.framesReceived.count),
      ("frames_dropped", .ofNat stats.framesDropped.count),
      ("frames_sent", .ofNat stats.framesSent.count),
      ("frames_rejected", .ofNat stats.framesRejected.count),
      ("watchdog_resets", .ofNat stats.watchdogResets.count)]

/-- What is broadcast after every step of a simulated mission. -/
structure Snapshot where
  cycle : UInt64
  state : SystemState
  executed : List String
  request : GroundRequest
  downlinkedFrames : Nat
  stats : RadioStats

def Snapshot.toJson (snapshot : Snapshot) : Json :=
  .ofFields
    [("cycle", .ofNat snapshot.cycle.toNat),
      ("state", snapshot.state.toJson),
      ("executed", .array (snapshot.executed.map Json.ofString)),
      ("request", .ofString snapshot.request.name),
      ("downlinked_frames", .ofNat snapshot.downlinkedFrames),
      ("comm", snapshot.stats.toJson)]

end Cubesat
