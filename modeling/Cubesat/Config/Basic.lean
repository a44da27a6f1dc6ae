import Cubesat.Antenna.Deployment
import Cubesat.Attitude.Detumbling
import Cubesat.Beacon.Broadcast
import Cubesat.Power.Periodic

/-!
The configuration of a mission, and the rules that it has to keep.
-/

namespace Cubesat

structure MissionConfig where
  cyclePeriodMillis : UInt64
  antennaSilentSeconds : UInt64
  antennaRetrySeconds : UInt64
  antennaMaxAttempts : UInt8
  detumblingOpensSeconds : UInt64
  detumblingClosesSeconds : UInt64
  beaconIntervalSeconds : UInt64
  /-- Mission time of the automatic sail opening; without it, the sail waits for a command. -/
  sailAutoOpenSeconds : Option UInt64
  powerCycleSeconds : UInt64
  securityCode : UInt32
  deriving DecidableEq

inductive ConfigRule where
  | cyclePeriodZero
  | noAntennaAttempt
  | detumblingWindowEmpty
  | beaconIntervalZero
  | powerCyclePeriodZero
  deriving DecidableEq

def ConfigRule.message : ConfigRule → String
  | cyclePeriodZero => "cycle period must be non-zero"
  | noAntennaAttempt => "antenna deployment needs at least one attempt"
  | detumblingWindowEmpty => "detumbling window ends before it starts"
  | beaconIntervalZero => "beacon interval must be non-zero"
  | powerCyclePeriodZero => "power cycle period must be non-zero"

inductive ConfigError where
  | unreadable
  | malformed
  | invalid (rule : ConfigRule)
  deriving DecidableEq

def ConfigError.message : ConfigError → String
  | unreadable => "unable to read config file"
  | malformed => "malformed config"
  | invalid rule => "invalid config: " ++ rule.message

namespace MissionConfig

def standard : MissionConfig :=
  { cyclePeriodMillis := 10000
    antennaSilentSeconds := 1800
    antennaRetrySeconds := 60
    antennaMaxAttempts := 8
    detumblingOpensSeconds := 2400
    detumblingClosesSeconds := 10800
    beaconIntervalSeconds := 300
    sailAutoOpenSeconds := some 3456000
    powerCycleSeconds := 86400
    securityCode := Comm.defaultSecurityCode }

def brokenRule? (config : MissionConfig) : Option ConfigRule :=
  if config.cyclePeriodMillis = 0 then some .cyclePeriodZero
  else if config.antennaMaxAttempts = 0 then some .noAntennaAttempt
  else if config.detumblingClosesSeconds ≤ config.detumblingOpensSeconds then
    some .detumblingWindowEmpty
  else if config.beaconIntervalSeconds = 0 then some .beaconIntervalZero
  else if config.powerCycleSeconds = 0 then some .powerCyclePeriodZero
  else none

def validate (config : MissionConfig) : Except ConfigError MissionConfig :=
  match config.brokenRule? with
  | some rule => .error (.invalid rule)
  | none => .ok config

def cyclePeriod (config : MissionConfig) : Duration :=
  .ofMillis config.cyclePeriodMillis

def deployment (config : MissionConfig) : DeploymentPlan :=
  { silentPeriod := .ofSeconds config.antennaSilentSeconds
    retryInterval := .ofSeconds config.antennaRetrySeconds
    maxAttempts := config.antennaMaxAttempts }

def detumbling (config : MissionConfig) : DetumblingWindow :=
  { opens := .ofSeconds config.detumblingOpensSeconds
    closes := .ofSeconds config.detumblingClosesSeconds }

def beaconInterval (config : MissionConfig) : Duration :=
  .ofSeconds config.beaconIntervalSeconds

def sailAutoOpen (config : MissionConfig) : Option Duration :=
  config.sailAutoOpenSeconds.map .ofSeconds

def powerCyclePeriod (config : MissionConfig) : Duration :=
  .ofSeconds config.powerCycleSeconds

end MissionConfig

end Cubesat
