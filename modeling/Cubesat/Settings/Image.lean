import Cubesat.Codec.Scalar
import Cubesat.Settings.Basic

/-!
The image of the settings on storage: their written form between two copies of
a magic number. An image whose envelope or body is damaged is refused as a
whole.
-/

namespace Cubesat

namespace Codec

def clockWeights : Codec ClockWeights :=
  (int16.pair int16).refine (fun weights => (weights.mcu, weights.external)) fun wire =>
    some { mcu := wire.1, external := wire.2 }

def callsign : Codec Callsign :=
  text.refine Callsign.text Callsign.ofString?

def sailRecord : Codec SailRecord :=
  choice SailRecord.all

def settings : Codec Settings :=
  (clockWeights.pair (flag.pair (callsign.pair (byte.pair (sailRecord.pair flag))))).refine
    (fun s =>
      (s.clockWeights, s.antennaDisabled, s.callsign, s.commLimit, s.sail, s.detumblingDisabled))
    fun (clockWeights, antennaDisabled, callsign, commLimit, sail, detumblingDisabled) =>
      some { clockWeights, antennaDisabled, callsign, commLimit, sail, detumblingDisabled }

end Codec

inductive ImageError where
  /-- The buffer has no room for the two magic numbers. -/
  | bufferTooSmall (size : Nat)
  | leadingMagicMismatch
  | trailingMagicMismatch
  /-- The settings do not fit between the magic numbers. -/
  | encode
  /-- The bytes between the magic numbers are not settings. -/
  | decode
  deriving DecidableEq

def ImageError.message : ImageError → String
  | bufferTooSmall size => "buffer of " ++ toString size ++ " bytes cannot hold persistent state"
  | leadingMagicMismatch => "leading magic mismatch"
  | trailingMagicMismatch => "trailing magic mismatch"
  | encode => "encoding failed"
  | decode => "decoding failed"

namespace Image

def magic : Bytes :=
  [0xEE, 0x77, 0xAA, 0x55]

theorem length_magic : magic.length = 4 := rfl

/-- The bytes that are set aside for the image on storage. -/
def regionSize : Nat := 256

def encode (settings : Settings) : Bytes :=
  magic ++ Codec.settings.encode settings ++ magic

/--
Writes an image to the front of a buffer. Returns its length, and the buffer
as it is afterwards: settings that do not fit leave the first magic number
behind, and a buffer too small for two of them stays as it is.
-/
def write (settings : Settings) (buffer : Bytes) : Except ImageError Nat × Bytes :=
  let image := encode settings
  if buffer.length < 2 * magic.length then
    (.error (.bufferTooSmall buffer.length), buffer)
  else if buffer.length < image.length then
    (.error .encode, Bytes.receive buffer magic)
  else
    (.ok image.length, Bytes.receive buffer image)

/-- Reads the settings from an image at the front of a buffer. -/
def decode (buffer : Bytes) : Except ImageError Settings :=
  if buffer.length < 2 * magic.length then
    .error (.bufferTooSmall buffer.length)
  else if buffer.take magic.length ≠ magic then
    .error .leadingMagicMismatch
  else
    match Codec.settings.decode (buffer.drop magic.length) with
    | none => .error .decode
    | some (settings, rest) =>
        if rest.take magic.length = magic then .ok settings else .error .trailingMagicMismatch

end Image

/-- Replaces a state by the settings of an image; an image that cannot be read changes nothing. -/
def PersistentState.restore (buffer : Bytes) (state : PersistentState) :
    Except ImageError Unit × PersistentState :=
  match Image.decode buffer with
  | .ok settings => (.ok (), { settings, modified := false })
  | .error error => (.error error, state)

end Cubesat
