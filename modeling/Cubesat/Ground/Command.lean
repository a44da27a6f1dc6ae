import Cubesat.Bytes
import Cubesat.Json.Reader
import Cubesat.Text.Blank

/-!
Commands from the ground station, one JSON value a line.

A command is an object with its name under the key `command` and its arguments
under keys of their own, or an array of its name and its arguments. Unlike
configurations, commands are read as a whole before they are looked at: nesting
is limited, every number has to be finite, and every escape valid, also where
the command has no use for them.
-/

namespace Cubesat

inductive GroundCommand where
  | sendBeacon
  | reboot
  | openSail
  | setTime (seconds : UInt64)
  | uplink (frame : Bytes)
  deriving DecidableEq

namespace Json

/-- Whether no more than `room` containers are open at once in a list of tokens. -/
def nestsWithin : (room : Nat) → List Token → Bool
  | _, [] => true
  | 0, .openArray :: _ | 0, .openObject :: _ => false
  | room + 1, .openArray :: rest | room + 1, .openObject :: rest => nestsWithin room rest
  | room, .closeArray :: rest | room, .closeObject :: rest => nestsWithin (room + 1) rest
  | room, _ :: rest => nestsWithin room rest

/--
Takes digits into a number for as long as it stays below 2 ^ 64; returns the
number and how many digits it took.
-/
def absorb : (taken : Nat) → List (Fin 10) → Nat × Nat
  | taken, [] => (taken, 0)
  | taken, digit :: rest =>
      let next := 10 * taken + digit.val
      if next < 18446744073709551616 then
        let done := absorb next rest
        (done.1, done.2 + 1)
      else
        (taken, 0)

/--
Whether a number is finite in double precision, when its leading digits are
taken as a 64-bit number and scaled by a power of ten.
-/
def Number.isFinite (number : Number) : Bool :=
  let digits := Decimal.digits number.whole
  let whole := absorb 0 digits
  let all := absorb whole.1 number.fraction
  let scale : Int :=
    (digits.length : Int) - (whole.2 : Int) - (all.2 : Int) + number.exponent.getD 0
  if all.1 = 0 || scale < 0 then
    true
  else if 308 < scale then
    false
  else
    !(Float.ofNat all.1 * Float.ofScientific 1 false scale.toNat).isInf

def Token.isStrict : Token → Bool
  | .number n => n.isFinite
  | .text units => units.chars?.isSome
  | _ => true

end Json

namespace GroundCommand

/-- Containers may be nested up to this depth. -/
def maxNesting : Nat := 127

def byteOfJson? : Json → Option UInt8
  | .number number => (number.natural?.filter (· < 256)).map UInt8.ofNat
  | _ => none

/-- The frame that a JSON value is: an array of bytes, or a text for its UTF-8 bytes. -/
def frameOfJson? : Json → Option Bytes
  | .array items => items.mapM byteOfJson?
  | .text text => text.string?.map textBytes
  | _ => none

def secondsOfJson? : Json → Option UInt64
  | .number number => (number.natural?.filter (· < 18446744073709551616)).map UInt64.ofNat
  | _ => none

/-- The value of a key that occurs once. -/
def single? (key : String) (members : List (Json.Text × Json)) : Option Json :=
  match members.filter fun member => member.1.string? = some key with
  | [(_, value)] => some value
  | _ => none

def ofMembers? (name : String) (members : List (Json.Text × Json)) : Option GroundCommand :=
  if name = "send_beacon" then some sendBeacon
  else if name = "reboot" then some reboot
  else if name = "open_sail" then some openSail
  else if name = "set_time" then
    ((single? "seconds" members).bind secondsOfJson?).map setTime
  else if name = "uplink" then
    ((single? "frame" members).bind frameOfJson?).map uplink
  else none

def ofArguments? (name : String) : List Json → Option GroundCommand
  | [] =>
      if name = "send_beacon" then some sendBeacon
      else if name = "reboot" then some reboot
      else if name = "open_sail" then some openSail
      else none
  | [argument] =>
      if name = "set_time" then (secondsOfJson? argument).map setTime
      else if name = "uplink" then (frameOfJson? argument).map uplink
      else none
  | _ => none

def ofJson? : Json → Option GroundCommand
  | .object members =>
      match single? "command" members with
      | some (.text name) => name.string?.bind fun name => ofMembers? name members
      | _ => none
  | .array (.text name :: arguments) => name.string?.bind fun name => ofArguments? name arguments
  | _ => none

def ofLine? (line : List Char) : Option GroundCommand := do
  let tokens ← Json.scan line
  if tokens.all Json.Token.isStrict && Json.nestsWithin maxNesting tokens then
    (Json.ofTokens? tokens).bind ofJson?
  else
    none

end GroundCommand

end Cubesat
