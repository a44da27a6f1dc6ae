import Cubesat.Codec.Varint

/-!
Codecs of single bytes, flags, byte strings, texts and enumerations.
-/

namespace Cubesat.Codec

universe u

def byte : Codec UInt8 where
  encode value := [value]
  decode
    | [] => none
    | first :: rest => some (first, rest)

/-- A flag: one byte, 0 or 1. -/
def flag : Codec Bool :=
  byte.refine (fun value => if value then 1 else 0) fun
    | 0 => some false
    | 1 => some true
    | _ => none

/-- A byte string after its length. -/
def blob : Codec Bytes where
  encode bytes := Varint.encode bytes.length ++ bytes
  decode bytes :=
    (Varint.word64.decode bytes).bind fun (size, rest) =>
      if size ≤ rest.length then some (rest.take size, rest.drop size) else none

/-- A text: the byte string of its UTF-8 form. -/
def text : Codec String :=
  blob.refine textBytes textOfBytes?

/-- A choice among listed values, written as the place of the value in the list. -/
def choice {Value : Type u} [BEq Value] (values : List Value) : Codec Value where
  encode value := Varint.encode (values.idxOf value)
  decode bytes :=
    (Varint.word32.decode bytes).bind fun (place, rest) =>
      values[place]?.map fun value => (value, rest)

end Cubesat.Codec
