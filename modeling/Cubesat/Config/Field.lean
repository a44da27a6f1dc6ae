import Cubesat.Config.Basic
import Cubesat.Json.Printer
import Cubesat.Json.Reader

/-!
Configurations as JSON.

A configuration is an object with any of the fields, or an array of the fields
in order. What is left out keeps its standard value. Keys that name no field
are passed over with their values.
-/

namespace Cubesat

inductive ConfigField where
  | cyclePeriod
  | antennaSilent
  | antennaRetry
  | antennaMaxAttempts
  | detumblingOpens
  | detumblingCloses
  | beaconInterval
  | sailAutoOpen
  | powerCycle
  | securityCode
  deriving DecidableEq

namespace ConfigField

def all : List ConfigField :=
  [cyclePeriod, antennaSilent, antennaRetry, antennaMaxAttempts, detumblingOpens,
    detumblingCloses, beaconInterval, sailAutoOpen, powerCycle, securityCode]

def key : ConfigField → String
  | cyclePeriod => "cycle_period_ms"
  | antennaSilent => "antenna_silent_period_s"
  | antennaRetry => "antenna_retry_interval_s"
  | antennaMaxAttempts => "antenna_max_attempts"
  | detumblingOpens => "detumbling_start_delay_s"
  | detumblingCloses => "detumbling_window_end_s"
  | beaconInterval => "beacon_interval_s"
  | sailAutoOpen => "sail_auto_open_s"
  | powerCycle => "power_cycle_period_s"
  | securityCode => "security_code"

def ofKey? (key : String) : Option ConfigField :=
  all.find? fun field => field.key = key

def toJson (config : MissionConfig) : ConfigField → Json
  | cyclePeriod => .ofNat config.cyclePeriodMillis.toNat
  | antennaSilent => .ofNat config.antennaSilentSeconds.toNat
  | antennaRetry => .ofNat config.antennaRetrySeconds.toNat
  | antennaMaxAttempts => .ofNat config.antennaMaxAttempts.toNat
  | detumblingOpens => .ofNat config.detumblingOpensSeconds.toNat
  | detumblingCloses => .ofNat config.detumblingClosesSeconds.toNat
  | beaconInterval => .ofNat config.beaconIntervalSeconds.toNat
  | sailAutoOpen => .ofOption (fun seconds => .ofNat seconds.toNat) config.sailAutoOpenSeconds
  | powerCycle => .ofNat config.powerCycleSeconds.toNat
  | securityCode => .ofNat config.securityCode.toNat

def naturalBelow? (bound : Nat) : Json → Option Nat
  | .number number => number.natural?.filter (· < bound)
  | _ => none

def word64? (value : Json) : Option UInt64 :=
  (naturalBelow? 18446744073709551616 value).map UInt64.ofNat

def assign? (config : MissionConfig) (value : Json) : ConfigField → Option MissionConfig
  | cyclePeriod => (word64? value).map fun n => { config with cyclePeriodMillis := n }
  | antennaSilent => (word64? value).map fun n => { config with antennaSilentSeconds := n }
  | antennaRetry => (word64? value).map fun n => { config with antennaRetrySeconds := n }
  | antennaMaxAttempts =>
      (naturalBelow? 256 value).map fun n => { config with antennaMaxAttempts := UInt8.ofNat n }
  | detumblingOpens => (word64? value).map fun n => { config with detumblingOpensSeconds := n }
  | detumblingCloses => (word64? value).map fun n => { config with detumblingClosesSeconds := n }
  | beaconInterval => (word64? value).map fun n => { config with beaconIntervalSeconds := n }
  | sailAutoOpen =>
      match value with
      | .null => some { config with sailAutoOpenSeconds := none }
      | _ => (word64? value).map fun n => { config with sailAutoOpenSeconds := some n }
  | powerCycle => (word64? value).map fun n => { config with powerCycleSeconds := n }
  | securityCode =>
      (naturalBelow? 4294967296 value).map fun n => { config with securityCode := UInt32.ofNat n }

end ConfigField

namespace MissionConfig

def toJson (config : MissionConfig) : Json :=
  .ofFields (ConfigField.all.map fun field => (field.key, field.toJson config))

/-- Reads the members of an object, given the fields that have been read before. -/
def readMembers? : List (Json.Text × Json) → List ConfigField → MissionConfig → Option MissionConfig
  | [], _, config => some config
  | (key, value) :: rest, seen, config =>
      match key.string? with
      | none => none
      | some key =>
          match ConfigField.ofKey? key with
          | none => readMembers? rest seen config
          | some field =>
              if field ∈ seen then
                none
              else
                (field.assign? config value).bind (readMembers? rest (field :: seen))

/-- Reads the items of an array as the given fields. -/
def readItems? : List ConfigField → List Json → MissionConfig → Option MissionConfig
  | _, [], config => some config
  | [], _ :: _, _ => none
  | field :: fields, value :: rest, config =>
      (field.assign? config value).bind (readItems? fields rest)

def ofJson? : Json → Option MissionConfig
  | .object members => readMembers? members [] standard
  | .array items => readItems? ConfigField.all items standard
  | _ => none

def ofText (text : String) : Except ConfigError MissionConfig :=
  match (Json.parse? text).bind ofJson? with
  | none => .error .malformed
  | some config => config.validate

/-- The configuration that the bytes of a file describe; there are none if there is no file. -/
def ofFile (content : Option Bytes) : Except ConfigError MissionConfig :=
  match content.bind textOfBytes? with
  | none => .error .unreadable
  | some text => ofText text

end MissionConfig

end Cubesat
