import Cubesat.Codec.Scalar
import Cubesat.State

/-!
The beacon: the status frame that the satellite sends.
-/

namespace Cubesat

structure Beacon where
  callsign : Bytes
  timestampMillis : UInt64
  antennaDeployed : Bool
  sail : SailState
  adcs : AdcsMode
  deriving DecidableEq

def Codec.beacon : Codec Beacon :=
  (blob.pair (uint64.pair (flag.pair ((choice SailState.all).pair (choice AdcsMode.all))))).refine
    (fun b => (b.callsign, b.timestampMillis, b.antennaDeployed, b.sail, b.adcs))
    fun (callsign, timestampMillis, antennaDeployed, sail, adcs) =>
      some { callsign, timestampMillis, antennaDeployed, sail, adcs }

namespace Beacon

/-- The beacon of a state; milliseconds beyond 64 bits count as the most that fits. -/
def ofState (state : SystemState) : Beacon :=
  { callsign := textBytes state.settings.callsign.text
    timestampMillis := UInt64.ofNat (min state.time.millis 18446744073709551615)
    antennaDeployed := state.antenna.deployed
    sail := state.sail
    adcs := state.adcs }

/-- The bytes of a beacon, if they fit into a buffer of a given size. -/
def encodeWithin? (size : Nat) (beacon : Beacon) : Option Bytes :=
  let bytes := Codec.beacon.encode beacon
  if bytes.length ≤ size then some bytes else none

def decode? (bytes : Bytes) : Option Beacon :=
  (Codec.beacon.decode bytes).map (·.1)

end Beacon

end Cubesat
